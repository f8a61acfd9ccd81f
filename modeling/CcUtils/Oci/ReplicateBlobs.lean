import CcUtils.Oci.Replicate

namespace CcUtils.Oci.ReplicateBlobs

open CcUtils.Python.Exceptions CcUtils.Python.Effects CcUtils.Python.Effects.Trace
  CcUtils.Oci.Replicate

structure BlobRef where
  digest : Digest
  mediaType : String
  size : Nat
  deriving DecidableEq, Repr

structure ImageManifest where
  config : BlobRef
  layers : List BlobRef
  deriving DecidableEq, Repr

def ImageManifest.blobs (m : ImageManifest) : List BlobRef := m.config :: m.layers

inductive Overwrite
  | bytes (data : List UInt8)
  | stream (data : List UInt8)
  deriving DecidableEq, Repr

def Overwrite.data : Overwrite → List UInt8
  | .bytes data | .stream data => data

/-- The test of `if blob_overwrite_bytes := ...`: empty `bytes` are false, and an object
without `__bool__` or `__len__`, as `io.BytesIO`, is true. -/
def Overwrite.truthy : Overwrite → Bool
  | .bytes data => !data.isEmpty
  | .stream _ => true

inductive BlobData
  | source (ref : String) (digest : Digest)
  | overwrite (data : List UInt8)
  deriving DecidableEq, Repr

inductive Call
  | blob (ref : String) (digest : Digest)
  | putBlob (ref : String) (digest : Digest) (octetsCount : Nat) (data : BlobData)
  deriving DecidableEq, Repr

def Call.put? : Call → Option (String × Digest × Nat)
  | .putBlob ref digest octetsCount _ => some (ref, digest, octetsCount)
  | .blob _ _ => none

/-- The client and `hashlib` as `replicate_blobs` uses them: `int(headers[...])` of the
response of `oci_client.blob` (either may raise), the answer of `put_blob`, and the hex digest
of SHA-256. -/
structure BlobClient where
  contentLength : String → Digest → Except PyExc Nat
  putBlob : String → Digest → Nat → BlobData → Except PyExc Unit
  sha256 : List UInt8 → String

def readChunks (data : List UInt8) : List (List UInt8) :=
  if data = [] then [] else data.take 4096 :: readChunks (data.drop 4096)
termination_by data.length
decreasing_by
  simp only [List.length_drop]
  have : 0 < data.length := List.length_pos.mpr ‹_›
  omega

theorem flatten_readChunks (data : List UInt8) : (readChunks data).flatten = data := by
  induction data using readChunks.induct with
  | case1 => rw [readChunks]; rfl
  | case2 data h ih => rw [readChunks, if_neg h, List.flatten_cons, ih, List.take_append_drop]

/-- The digest and octet count of an overwrite: for a stream, the digest updated chunk by
chunk from position 0, and the count read from `tell()` after the last chunk, the number of
bytes read. -/
def overwriteDigest (c : BlobClient) : Overwrite → Digest × Nat
  | .bytes data => ("sha256:" ++ c.sha256 data, data.length)
  | .stream data =>
    ("sha256:" ++ c.sha256 (readChunks data).flatten, (readChunks data).flatten.length)

theorem overwriteDigest_eq (c : BlobClient) (ow : Overwrite) :
    overwriteDigest c ow = ("sha256:" ++ c.sha256 ow.data, ow.data.length) := by
  cases ow with
  | bytes data => rfl
  | stream data =>
    simp only [overwriteDigest, Overwrite.data, flatten_readChunks]

def overwriteFor (overwrites : List (BlobRef × Overwrite)) (digest : Digest) : Option Overwrite :=
  ((overwrites.map fun o => (o.1.digest, o.2)).reverse.lookup digest)

section Replicate

variable (c : BlobClient) (srcRef tgtRef : String) (overwrites : List (BlobRef × Overwrite))

def replicateBlob (blob : BlobRef) : Trace Call BlobRef :=
  match (overwriteFor overwrites blob.digest).filter Overwrite.truthy with
  | some ow =>
    let digest := (overwriteDigest c ow).1
    let octetsCount := (overwriteDigest c ow).2
    call (.putBlob tgtRef digest octetsCount (.overwrite ow.data))
      (c.putBlob tgtRef digest octetsCount (.overwrite ow.data)) >>= fun _ =>
    pure ⟨digest, blob.mediaType, octetsCount⟩
  | none =>
    call (.blob srcRef blob.digest) (c.contentLength srcRef blob.digest) >>= fun octetsCount =>
    call (.putBlob tgtRef blob.digest octetsCount (.source srcRef blob.digest))
      (c.putBlob tgtRef blob.digest octetsCount (.source srcRef blob.digest)) >>= fun _ =>
    pure ⟨blob.digest, blob.mediaType, octetsCount⟩

def replicateLayers : List BlobRef → Trace Call (List BlobRef)
  | [] => pure []
  | blob :: blobs =>
    replicateBlob c srcRef tgtRef overwrites blob >>= fun b =>
    replicateLayers blobs >>= fun bs => pure (b :: bs)

def replicateBlobs (m : ImageManifest) : Trace Call ImageManifest :=
  replicateBlob c srcRef tgtRef overwrites m.config >>= fun config =>
  replicateLayers c srcRef tgtRef overwrites m.layers >>= fun layers =>
  pure ⟨config, layers⟩

end Replicate

def Replicated (c : BlobClient) (srcRef : String) (overwrites : List (BlobRef × Overwrite))
    (b b' : BlobRef) : Prop :=
  b'.mediaType = b.mediaType ∧
  match (overwriteFor overwrites b.digest).filter Overwrite.truthy with
  | some ow => b'.digest = "sha256:" ++ c.sha256 ow.data ∧ b'.size = ow.data.length
  | none => b'.digest = b.digest ∧ c.contentLength srcRef b.digest = .ok b'.size

def ContentAddressed (c : BlobClient) (srcRef : String) (calls : List Call) : Prop :=
  ∀ ref digest n data, Call.putBlob ref digest n data ∈ calls →
    match data with
    | .overwrite bytes => digest = "sha256:" ++ c.sha256 bytes ∧ n = bytes.length
    | .source ref' digest' => ref' = srcRef ∧ digest' = digest

section Lemmas

variable {c : BlobClient} {srcRef tgtRef : String} {overwrites : List (BlobRef × Overwrite)}

theorem replicateBlob_of_overwrite {b : BlobRef} {ow : Overwrite}
    (hw : (overwriteFor overwrites b.digest).filter Overwrite.truthy = some ow) :
    replicateBlob c srcRef tgtRef overwrites b =
      call (.putBlob tgtRef ("sha256:" ++ c.sha256 ow.data) ow.data.length (.overwrite ow.data))
        (c.putBlob tgtRef ("sha256:" ++ c.sha256 ow.data) ow.data.length (.overwrite ow.data)) >>=
      fun _ => pure ⟨"sha256:" ++ c.sha256 ow.data, b.mediaType, ow.data.length⟩ := by
  simp only [replicateBlob, hw, overwriteDigest_eq]

theorem replicateBlob_of_source {b : BlobRef}
    (hw : (overwriteFor overwrites b.digest).filter Overwrite.truthy = none) :
    replicateBlob c srcRef tgtRef overwrites b =
      call (.blob srcRef b.digest) (c.contentLength srcRef b.digest) >>= fun octetsCount =>
      call (.putBlob tgtRef b.digest octetsCount (.source srcRef b.digest))
        (c.putBlob tgtRef b.digest octetsCount (.source srcRef b.digest)) >>= fun _ =>
      pure ⟨b.digest, b.mediaType, octetsCount⟩ := by
  simp only [replicateBlob, hw]

theorem replicateBlob_ok {b b' : BlobRef}
    (h : (replicateBlob c srcRef tgtRef overwrites b).result = .ok b') :
    Replicated c srcRef overwrites b b' ∧
    (replicateBlob c srcRef tgtRef overwrites b).calls.filterMap Call.put? =
      [(tgtRef, b'.digest, b'.size)] ∧
    ContentAddressed c srcRef (replicateBlob c srcRef tgtRef overwrites b).calls := by
  rcases hw : (overwriteFor overwrites b.digest).filter Overwrite.truthy with _ | ow
  · -- copied from the source
    rw [replicateBlob_of_source hw] at h ⊢
    obtain ⟨n, hlen, h⟩ := bind_result_ok.mp h
    obtain ⟨_, hput, hb⟩ := bind_result_ok.mp h
    cases hb
    rw [bind_of_ok hlen, bind_of_ok hput]
    simp only [call_calls, pure_calls, List.append_nil, List.singleton_append]
    refine ⟨by rw [Replicated, hw]; exact ⟨rfl, rfl, call_result_ok hlen⟩, rfl, ?_⟩
    intro ref digest n' data hc
    simp only [List.mem_cons, List.mem_singleton, reduceCtorEq, false_or, Call.putBlob.injEq,
      List.not_mem_nil, or_false] at hc
    obtain ⟨-, rfl, rfl, rfl⟩ := hc
    exact ⟨rfl, rfl⟩
  · -- uploaded from the overwrite
    rw [replicateBlob_of_overwrite hw] at h ⊢
    obtain ⟨_, hput, hb⟩ := bind_result_ok.mp h
    cases hb
    rw [bind_of_ok hput]
    simp only [call_calls, pure_calls, List.append_nil]
    refine ⟨by rw [Replicated, hw]; exact ⟨rfl, rfl, rfl⟩, rfl, ?_⟩
    intro ref digest n data hc
    simp only [List.mem_singleton, Call.putBlob.injEq] at hc
    obtain ⟨-, rfl, rfl, rfl⟩ := hc
    exact ⟨rfl, rfl⟩

theorem replicateBlob_error {b : BlobRef} {x : Halt}
    (h : (replicateBlob c srcRef tgtRef overwrites b).result = .error x) :
    ∃ e, x = .raised e ∧ (c.contentLength srcRef b.digest = .error e ∨
      ∃ digest n data, c.putBlob tgtRef digest n data = .error e) := by
  rcases hw : (overwriteFor overwrites b.digest).filter Overwrite.truthy with _ | ow
  · rw [replicateBlob_of_source hw] at h
    rcases bind_result_error h with h | ⟨n, -, h⟩
    · obtain ⟨e, rfl, he⟩ := call_result_error h
      exact ⟨e, rfl, .inl he⟩
    · rcases bind_result_error h with h | ⟨_, _, h⟩
      · obtain ⟨e, rfl, he⟩ := call_result_error h
        exact ⟨e, rfl, .inr ⟨_, _, _, he⟩⟩
      · cases h
  · rw [replicateBlob_of_overwrite hw] at h
    rcases bind_result_error h with h | ⟨_, _, h⟩
    · obtain ⟨e, rfl, he⟩ := call_result_error h
      exact ⟨e, rfl, .inr ⟨_, _, _, he⟩⟩
    · cases h

theorem ContentAddressed.append {calls calls' : List Call} (h : ContentAddressed c srcRef calls)
    (h' : ContentAddressed c srcRef calls') : ContentAddressed c srcRef (calls ++ calls') :=
  fun ref digest n data hc => (List.mem_append.mp hc).elim (h ref digest n data) (h' ref digest n data)

theorem replicateLayers_ok :
    ∀ {bs bs' : List BlobRef}, (replicateLayers c srcRef tgtRef overwrites bs).result = .ok bs' →
      List.Forall₂ (Replicated c srcRef overwrites) bs bs' ∧
      (replicateLayers c srcRef tgtRef overwrites bs).calls.filterMap Call.put? =
        bs'.map (fun b' => (tgtRef, b'.digest, b'.size)) ∧
      ContentAddressed c srcRef (replicateLayers c srcRef tgtRef overwrites bs).calls
  | [], bs', h => by
    cases h
    exact ⟨.nil, rfl, fun _ _ _ _ hc => by cases hc⟩
  | b :: bs, bs', h => by
    unfold replicateLayers at h ⊢
    obtain ⟨b', hb, h⟩ := bind_result_ok.mp h
    obtain ⟨bs'', hbs, h⟩ := bind_result_ok.mp h
    cases h
    obtain ⟨hr, hput, haddr⟩ := replicateBlob_ok hb
    obtain ⟨hrs, hputs, haddrs⟩ := replicateLayers_ok hbs
    rw [bind_of_ok hb, bind_of_ok hbs]
    simp only [pure_calls, List.append_nil, List.filterMap_append, hput, hputs, List.map_cons]
    exact ⟨.cons hr hrs, rfl, haddr.append haddrs⟩

theorem replicateLayers_error :
    ∀ {bs : List BlobRef} {x : Halt}, (replicateLayers c srcRef tgtRef overwrites bs).result = .error x →
      ∃ e, x = .raised e ∧ ∃ b ∈ bs, c.contentLength srcRef b.digest = .error e ∨
        ∃ digest n data, c.putBlob tgtRef digest n data = .error e
  | [], _, h => by cases h
  | b :: bs, x, h => by
    unfold replicateLayers at h
    rcases bind_result_error h with h | ⟨_, _, h⟩
    · obtain ⟨e, rfl, he⟩ := replicateBlob_error h
      exact ⟨e, rfl, b, List.mem_cons_self _ _, he⟩
    · rcases bind_result_error h with h | ⟨_, _, h⟩
      · obtain ⟨e, rfl, b', hb', he⟩ := replicateLayers_error h
        exact ⟨e, rfl, b', List.mem_cons_of_mem _ hb', he⟩
      · cases h

end Lemmas

theorem replicate_blobs_uploads_manifest (c : BlobClient) (srcRef tgtRef : String)
    (overwrites : List (BlobRef × Overwrite)) (m : ImageManifest) :
    (∀ m', (replicateBlobs c srcRef tgtRef overwrites m).result = .ok m' →
      List.Forall₂ (Replicated c srcRef overwrites) m.blobs m'.blobs ∧
      (replicateBlobs c srcRef tgtRef overwrites m).calls.filterMap Call.put? =
        m'.blobs.map (fun b' => (tgtRef, b'.digest, b'.size)) ∧
      ContentAddressed c srcRef (replicateBlobs c srcRef tgtRef overwrites m).calls) ∧
    (∀ x, (replicateBlobs c srcRef tgtRef overwrites m).result = .error x →
      ∃ e, x = .raised e ∧ ∃ b ∈ m.blobs, c.contentLength srcRef b.digest = .error e ∨
        ∃ digest n data, c.putBlob tgtRef digest n data = .error e) := by
  refine ⟨fun m' h => ?_, fun x h => ?_⟩
  · obtain ⟨config, hc, h⟩ := bind_result_ok.mp h
    obtain ⟨layers, hl, h⟩ := bind_result_ok.mp h
    cases h
    obtain ⟨hr, hput, haddr⟩ := replicateBlob_ok hc
    obtain ⟨hrs, hputs, haddrs⟩ := replicateLayers_ok hl
    rw [replicateBlobs, bind_of_ok hc, bind_of_ok hl]
    simp only [pure_calls, List.append_nil, List.filterMap_append, hput, hputs]
    exact ⟨.cons hr hrs, rfl, haddr.append haddrs⟩
  · rcases bind_result_error h with h | ⟨_, _, h⟩
    · obtain ⟨e, rfl, he⟩ := replicateBlob_error h
      exact ⟨e, rfl, m.config, List.mem_cons_self _ _, he⟩
    · rcases bind_result_error h with h | ⟨_, _, h⟩
      · obtain ⟨e, rfl, b, hb, he⟩ := replicateLayers_error h
        exact ⟨e, rfl, b, List.mem_cons_of_mem _ hb, he⟩
      · cases h

example : (replicateBlobs ⟨fun _ _ => .ok 7, fun _ _ _ _ => .ok (), fun _ => "e3b0"⟩ "src" "tgt"
      [(⟨"sha256:cfg", "cfg", 7⟩, .bytes [])] ⟨⟨"sha256:cfg", "cfg", 7⟩, []⟩).calls =
      [.blob "src" "sha256:cfg", .putBlob "tgt" "sha256:cfg" 7 (.source "src" "sha256:cfg")] := by
  decide

end CcUtils.Oci.ReplicateBlobs
