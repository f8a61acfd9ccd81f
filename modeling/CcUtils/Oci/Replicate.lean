import CcUtils.Python.Effects

namespace CcUtils.Oci.Replicate

open CcUtils.Python.Exceptions CcUtils.Python.Effects CcUtils.Python.Effects.Trace

abbrev Digest := String

inductive Tag
  | symbolic (tag : String)
  | digest (digest : Digest)
  deriving DecidableEq, Repr

structure OciImageReference where
  refWithoutTag : String
  tag : Option Tag
  deriving DecidableEq, Repr

def OciImageReference.hasTag (r : OciImageReference) : Bool := r.tag.isSome

def OciImageReference.hasDigestTag (r : OciImageReference) : Bool :=
  match r.tag with
  | some (.digest _) => true
  | _ => false

def OciImageReference.withDigest (r : OciImageReference) (d : Digest) : OciImageReference :=
  ⟨r.refWithoutTag, some (.digest d)⟩

def dockerManifestListMime : String := "application/vnd.docker.distribution.manifest.list.v2+json"
def ociImageIndexMime : String := "application/vnd.oci.image.index.v1+json"
def ociManifestSchemaV2Mime : String := "application/vnd.oci.image.manifest.v1+json"
def dockerManifestSchemaV2Mime : String :=
  "application/vnd.docker.distribution.manifest.v2+json"

structure OciPlatform where
  os : String
  architecture : String
  deriving DecidableEq, Repr

structure OciImageManifestListEntry where
  digest : Digest
  mediaType : String
  size : Nat
  platform : Option OciPlatform
  deriving DecidableEq, Repr

abbrev Annotations := List (String × String)

structure OciImageManifestList where
  manifests : List OciImageManifestListEntry
  mediaType : String
  annotations : Annotations
  deriving DecidableEq, Repr

structure OciBlobRef where
  digest : Digest
  size : Nat
  deriving DecidableEq, Repr

structure OciImageManifest where
  config : OciBlobRef
  layers : List OciBlobRef
  annotations : Annotations
  deriving DecidableEq, Repr

def OciImageManifest.blobs (m : OciImageManifest) : List OciBlobRef := m.config :: m.layers

inductive ReplicationMode
  | registryDefaults
  | preferMultiarch
  | normaliseToMultiarch
  deriving DecidableEq, Repr

inductive AcceptHeader
  | preferMultiarch
  deriving DecidableEq, Repr

def ReplicationMode.acceptHeader : ReplicationMode → Option AcceptHeader
  | .registryDefaults => none
  | .preferMultiarch => some .preferMultiarch
  | .normaliseToMultiarch => some .preferMultiarch

inductive Client
  | passed (n : Nat)
  | created
  deriving DecidableEq, Repr

structure ManifestResponse where
  text : String
  contentType : Option String
  deriving DecidableEq, Repr

structure ManifestJson where
  schemaVersion : Nat
  mediaType : Option String
  asManifestList : Except PyExc OciImageManifestList
  asManifest : Except PyExc OciImageManifest
  v1Compatibility : Option String

/-- The registries as `replicate_artifact` sees them, with the functions of other modules it calls
(serialisation, SHA-256, `oconv`, `op.from_single_image`, the synthesis of a config). -/
structure Registry where
  manifestRaw : OciImageReference → Option AcceptHeader → Except PyExc ManifestResponse
  loads : String → Except PyExc ManifestJson
  manifest : OciImageReference → Except PyExc Unit
  v1ManifestToV2 : OciImageReference → Except PyExc OciImageManifest
  toDigestHash : OciImageReference → Except PyExc Digest
  fromSingleImage : OciImageReference → Option OciPlatform → Except PyExc OciPlatform
  headBlob : OciImageReference → Digest → Bool
  blobExists : OciImageReference → Digest → Bool
  uncompressedDigest : Digest → Digest
  synthesiseCfg : String → Option (List Digest) → String
  dumpsList : OciImageManifestList → String
  dumpsImage : OciImageManifest → String
  sha256 : String → String

inductive Call
  | manifestRaw (client : Client) (ref : OciImageReference) (accept : Option AcceptHeader)
  | manifest (client : Client) (ref : OciImageReference)
  | toDigestHash (client : Client) (ref : OciImageReference)
  | fromSingleImage (client : Option Client) (ref : OciImageReference)
  | headBlob (client : Client) (ref : OciImageReference) (digest : Digest)
  | blob (client : Client) (ref : OciImageReference) (digest : Digest)
  | putBlob (client : Client) (ref : OciImageReference) (digest : Digest) (size : Nat)
  | putManifest (client : Client) (ref : OciImageReference) (manifest : String)
  deriving DecidableEq, Repr

structure ReplicateArgs where
  src : OciImageReference
  tgt : OciImageReference
  credentialsLookup : Bool
  ociClient : Option Client
  mode : ReplicationMode
  platformFilter : Option (OciPlatform → Bool)
  annotations : Annotations

abbrev Replicated := OciImageReference × String

section Helpers

variable (env : Registry)

def digestOf (text : String) : Digest := "sha256:" ++ env.sha256 text

def requireClient (client : Option Client) (method : String) : Trace Call Client :=
  match client with
  | some c => pure c
  | none => raise ⟨.attributeError, "\x27NoneType\x27 object has no attribute \x27" ++ method ++ "\x27"⟩

def pyRemove {α : Type} [DecidableEq α] (l : List α) (x : α) : Except PyExc (List α) :=
  if x ∈ l then .ok (l.erase x) else .error ⟨.valueError, "list.remove(x): x not in list"⟩

def pyInsert {α : Type} (l : List α) (idx : Nat) (x : α) : List α := l.take idx ++ x :: l.drop idx

def dictSet (d : Annotations) (k v : String) : Annotations :=
  if d.any (·.1 = k) then d.map fun e => if e.1 = k then (k, v) else e else d ++ [(k, v)]

def mergeAnnotations : Annotations → Annotations → Annotations × Bool
  | current, [] => (current, false)
  | current, (k, v) :: rest =>
    if current.lookup k = some v then mergeAnnotations current rest
    else ((mergeAnnotations (dictSet current k v) rest).1, true)

def putFinalManifest (client : Client) (tgt : OciImageReference) (rawManifest : String) :
    Trace Call Replicated :=
  let tgt := if tgt.hasTag then tgt else tgt.withDigest (digestOf env rawManifest)
  emit (.putManifest client tgt rawManifest) >>= fun _ => pure (tgt, rawManifest)

end Helpers

section Replicate

variable (env : Registry)

def blobNotFound (digest : Digest) : PyExc := ⟨.httpError, "blob not found: " ++ digest⟩

def blobLoop (client : Client) (src tgt : OciImageReference) (needUncompressed : Bool) :
    Nat → List OciBlobRef → Bool × Option (List Digest) →
      Trace Call (Bool × Option (List Digest))
  | _, [], state => pure state
  | idx, layer :: layers, (needSynth, uncompressed) =>
    let isCfgBlob := idx == 0
    let collected := uncompressed.map (· ++ [env.uncompressedDigest layer.digest])
    if isCfgBlob && needSynth then
      blobLoop client src tgt needUncompressed (idx + 1) layers (needSynth, uncompressed)
    else
      emit (.headBlob client tgt layer.digest) >>= fun _ =>
      if env.headBlob tgt layer.digest && !needUncompressed then
        blobLoop client src tgt needUncompressed (idx + 1) layers (needSynth, uncompressed)
      else if env.headBlob tgt layer.digest && !isCfgBlob then
        emit (.blob client src layer.digest) >>= fun _ =>
        if env.blobExists src layer.digest then
          blobLoop client src tgt needUncompressed (idx + 1) layers (needSynth, collected)
        else raise (blobNotFound layer.digest)
      else
        emit (.blob client src layer.digest) >>= fun _ =>
        if !env.blobExists src layer.digest then
          if isCfgBlob then
            blobLoop client src tgt needUncompressed (idx + 1) layers (true, uncompressed)
          else raise (blobNotFound layer.digest)
        else
          emit (.putBlob client tgt layer.digest layer.size) >>= fun _ =>
          blobLoop client src tgt needUncompressed (idx + 1) layers
            (needSynth, if needUncompressed then collected else uncompressed)

def synthesiseCfgBlob (client : Client) (tgt : OciImageReference) (rawManifest : String)
    (manifest : OciImageManifest) (uncompressed : Option (List Digest)) : Trace Call String :=
  liftExcept (env.loads rawManifest) >>= fun json =>
  match json.v1Compatibility with
  | none => raise ⟨.keyError, "\x27history\x27"⟩
  | some v1Compatibility =>
    let fakeCfgRaw := env.synthesiseCfg v1Compatibility uncompressed
    let cfgDigest := digestOf env fakeCfgRaw
    emit (.putBlob client tgt cfgDigest fakeCfgRaw.utf8ByteSize) >>= fun _ =>
    pure (env.dumpsImage { manifest with config := ⟨cfgDigest, fakeCfgRaw.utf8ByteSize⟩ })

/-- `replicate_artifact` for an image manifest, from the blob loop on. The annotation step
re-serialises `manifest`, the object as parsed, not the manifest with the synthesised
config. -/
def replicateImage (client : Client) (args : ReplicateArgs) (manifest : OciImageManifest)
    (rawManifest : String) (needSynth : Bool) (uncompressed : Option (List Digest)) :
    Trace Call Replicated :=
  blobLoop env client args.src args.tgt uncompressed.isSome 0 manifest.blobs
    (needSynth, uncompressed) >>= fun (needSynth, uncompressed) =>
  (if needSynth then synthesiseCfgBlob env client args.tgt rawManifest manifest uncompressed
    else pure rawManifest) >>= fun rawManifest =>
  let merged := if args.annotations = [] then (manifest.annotations, false)
    else mergeAnnotations manifest.annotations args.annotations
  let rawManifest :=
    if merged.2 then env.dumpsImage { manifest with annotations := merged.1 } else rawManifest
  putFinalManifest env client args.tgt rawManifest

/-- The loop over the entries of a manifest list, from index `idx`: the entries as they stand
and whether they changed. Each kept entry is replicated to the untagged target, and re-pointed
at the digest of the bytes that replication put. -/
def subManifestLoop (args : ReplicateArgs) (replicate : OciImageReference →
    OciImageReference → Trace Call Replicated) (srcName tgtName : String) :
    Nat → List OciImageManifestListEntry → List OciImageManifestListEntry × Bool →
      Trace Call (List OciImageManifestListEntry × Bool)
  | _, [], state => pure state
  | idx, sub :: subs, (manifests, dirty) =>
    let srcReference : OciImageReference := ⟨srcName, some (.digest sub.digest)⟩
    (match args.platformFilter with
      | none => pure true
      | some platformFilter =>
        emit (.fromSingleImage args.ociClient srcReference) >>= fun _ =>
        liftExcept (env.fromSingleImage srcReference sub.platform) >>= fun platform =>
        pure (platformFilter platform)) >>= fun keep =>
    if !keep then
      liftExcept (pyRemove manifests sub) >>= fun manifests =>
      subManifestLoop args replicate srcName tgtName (idx + 1) subs (manifests, true)
    else
      replicate srcReference ⟨tgtName, none⟩ >>= fun replicated =>
      let submanifestDigest := digestOf env replicated.2
      if submanifestDigest ≠ sub.digest then
        liftExcept (pyRemove manifests sub) >>= fun manifests =>
        subManifestLoop args replicate srcName tgtName (idx + 1) subs
          (pyInsert manifests idx
            { sub with digest := submanifestDigest, size := replicated.2.utf8ByteSize }, true)
      else subManifestLoop args replicate srcName tgtName (idx + 1) subs (manifests, dirty)

def replicateManifestList (client : Client) (args : ReplicateArgs)
    (replicate : OciImageReference → OciImageReference → Trace Call Replicated)
    (json : ManifestJson) (mediaType rawManifest : String) : Trace Call Replicated :=
  liftExcept json.asManifestList >>= fun manifestList =>
  let manifestList := { manifestList with mediaType := mediaType }
  subManifestLoop env args replicate args.src.refWithoutTag args.tgt.refWithoutTag 0
    manifestList.manifests (manifestList.manifests, false) >>= fun (manifests, dirty) =>
  let merged := if args.annotations = [] then (manifestList.annotations, false)
    else mergeAnnotations manifestList.annotations args.annotations
  let rawManifest := if dirty || merged.2 then
      env.dumpsList { manifestList with manifests := manifests, annotations := merged.1 }
    else rawManifest
  putFinalManifest env client args.tgt rawManifest

def normaliseToMultiarch (args : ReplicateArgs)
    (replicate : OciImageReference → OciImageReference → Trace Call Replicated)
    (mediaType : String) : Trace Call Replicated :=
  (if args.src.hasDigestTag then pure args.src
    else
      requireClient args.ociClient "to_digest_hash" >>= fun c =>
      emit (.toDigestHash c args.src) >>= fun _ =>
      liftExcept (env.toDigestHash args.src) >>= fun d => pure (args.src.withDigest d)) >>= fun src =>
  emit (.fromSingleImage args.ociClient src) >>= fun _ =>
  liftExcept (env.fromSingleImage src none) >>= fun platform =>
  replicate src ⟨args.tgt.refWithoutTag, src.tag⟩ >>= fun replicated =>
  let manifestListBytes := env.dumpsList
    ⟨[⟨digestOf env replicated.2, mediaType, replicated.2.utf8ByteSize, some platform⟩],
      dockerManifestListMime, []⟩
  requireClient args.ociClient "put_manifest" >>= fun c =>
  emit (.putManifest c args.tgt manifestListBytes) >>= fun _ =>
  pure (args.tgt, manifestListBytes)

/-- `replicate_artifact`, its recursion (into the entries of a manifest list, and into the
image a `NORMALISE_TO_MULTIARCH` list wraps) bounded by `fuel`. -/
def replicateArtifact : Nat → ReplicateArgs → Trace Call Replicated
  | 0, _ => outOfFuel
  | fuel + 1, args =>
    if args.credentialsLookup = args.ociClient.isSome then
      raise ⟨.valueError, "either credentials-lookup + routes, xor client must be passed"⟩
    else
      let client := args.ociClient.getD .created
      let recurse := fun (ociClient : Option Client) (src tgt : OciImageReference) =>
        replicateArtifact fuel ⟨src, tgt, false, ociClient, .registryDefaults, none, args.annotations⟩
      emit (.manifestRaw client args.src args.mode.acceptHeader) >>= fun _ =>
      liftExcept (env.manifestRaw args.src args.mode.acceptHeader) >>= fun resp =>
      liftExcept (env.loads resp.text) >>= fun json =>
      let mediaType := json.mediaType <|> resp.contentType.filter (· ≠ "")
      if json.schemaVersion = 1 then
        emit (.manifest client args.src) >>= fun _ =>
        liftExcept (env.manifest args.src) >>= fun _ =>
        liftExcept (env.v1ManifestToV2 args.src) >>= fun manifest =>
        replicateImage env client args manifest resp.text true (some [])
      else if json.schemaVersion = 2 then
        let mediaType := mediaType.getD dockerManifestSchemaV2Mime
        if mediaType = dockerManifestListMime ∨ mediaType = ociImageIndexMime then
          replicateManifestList env client args (recurse (some client)) json mediaType resp.text
        else if mediaType = ociManifestSchemaV2Mime ∨ mediaType = dockerManifestSchemaV2Mime then
          if args.mode = .normaliseToMultiarch then
            normaliseToMultiarch env args (recurse args.ociClient) mediaType
          else
            liftExcept json.asManifest >>= fun manifest =>
            replicateImage env client args manifest resp.text false none
        else raise ⟨.notImplementedError, "media_type=\x27" ++ mediaType ++ "\x27"⟩
      else raise ⟨.notImplementedError, toString json.schemaVersion⟩

end Replicate

section Normalise

variable (env : Registry)

theorem getLast?_bind_calls {σ α β : Type} {x : Trace σ α} {f : α → Trace σ β} {a : α}
    (hx : x.result = .ok a) (hf : (f a).calls ≠ []) :
    (x >>= f).calls.getLast? = (f a).calls.getLast? := by
  rw [bind_of_ok hx]
  simp only [List.getLast?_append]
  cases h : (f a).calls.getLast? with
  | none => exact absurd (List.getLast?_eq_none_iff.mp h) hf
  | some c => rfl

def effectiveMediaType (resp : ManifestResponse) (json : ManifestJson) : String :=
  (json.mediaType <|> resp.contentType.filter (· ≠ "")).getD dockerManifestSchemaV2Mime

def SingleImageSource (args : ReplicateArgs) : Prop :=
  ∃ resp json, env.manifestRaw args.src args.mode.acceptHeader = .ok resp ∧
    env.loads resp.text = .ok json ∧ json.schemaVersion = 2 ∧
    (effectiveMediaType resp json = ociManifestSchemaV2Mime ∨
      effectiveMediaType resp json = dockerManifestSchemaV2Mime)

theorem normaliseToMultiarch_ok {args : ReplicateArgs}
    {replicate : OciImageReference → OciImageReference → Trace Call Replicated}
    {mediaType : String} {r : OciImageReference} {b : String}
    (h : (normaliseToMultiarch env args replicate mediaType).result = .ok (r, b)) :
    r = args.tgt ∧ ∃ c, (normaliseToMultiarch env args replicate mediaType).calls.getLast? =
      some (.putManifest c args.tgt b) := by
  unfold normaliseToMultiarch at h ⊢
  obtain ⟨src, hs, h⟩ := bind_result_ok.mp h
  rw [emit_bind] at h
  obtain ⟨platform, hp, h⟩ := bind_result_ok.mp h
  obtain ⟨replicated, hr, h⟩ := bind_result_ok.mp h
  obtain ⟨c, hc, h⟩ := bind_result_ok.mp h
  rw [emit_bind] at h
  simp only [pure_result, Except.ok.injEq, Prod.mk.injEq] at h
  obtain ⟨rfl, rfl⟩ := h
  refine ⟨rfl, c, ?_⟩
  rw [getLast?_bind_calls hs (by simp), emit_bind]
  simp only [List.getLast?_cons]
  rw [getLast?_bind_calls hp (by simp [getLast?_bind_calls, bind_of_ok hr, bind_of_ok hc]),
    getLast?_bind_calls hr (by simp [bind_of_ok hc]), getLast?_bind_calls hc (by simp),
    emit_bind]
  simp

theorem replicateArtifact_normalise {fuel : Nat} {args : ReplicateArgs} {resp : ManifestResponse}
    {json : ManifestJson} (hxor : args.credentialsLookup ≠ args.ociClient.isSome)
    (hmode : args.mode = .normaliseToMultiarch)
    (hraw : env.manifestRaw args.src args.mode.acceptHeader = .ok resp)
    (hloads : env.loads resp.text = .ok json) (hv : json.schemaVersion = 2)
    (hmt : effectiveMediaType resp json = ociManifestSchemaV2Mime ∨
      effectiveMediaType resp json = dockerManifestSchemaV2Mime) :
    replicateArtifact env (fuel + 1) args =
      emit (.manifestRaw (args.ociClient.getD .created) args.src args.mode.acceptHeader) >>=
        fun _ => normaliseToMultiarch env args (fun src tgt => replicateArtifact env fuel
          ⟨src, tgt, false, args.ociClient, .registryDefaults, none, args.annotations⟩)
          (effectiveMediaType resp json) := by
  have hlist : ¬ (effectiveMediaType resp json = dockerManifestListMime ∨
      effectiveMediaType resp json = ociImageIndexMime) := by
    rcases hmt with h | h <;> rw [h] <;> decide
  simp only [effectiveMediaType] at hlist hmt
  simp only [replicateArtifact, hxor, if_false, hraw, hloads, liftExcept_ok, pure_bind]
  simp only [hv, hmode, hlist, hmt, if_true, if_false, effectiveMediaType]
  rfl

end Normalise

theorem normalise_final_put_ignores_tag_rule (env : Registry) (fuel : Nat) (args : ReplicateArgs)
    (hmode : args.mode = .normaliseToMultiarch) (hsrc : SingleImageSource env args)
    {r : OciImageReference} {b : String}
    (hok : (replicateArtifact env fuel args).result = .ok (r, b)) :
    r = args.tgt ∧ ∃ c, (replicateArtifact env fuel args).calls.getLast? =
      some (.putManifest c args.tgt b) := by
  obtain ⟨resp, json, hraw, hloads, hv, hmt⟩ := hsrc
  cases fuel with
  | zero => simp [replicateArtifact, outOfFuel] at hok
  | succ fuel =>
    by_cases hxor : args.credentialsLookup = args.ociClient.isSome
    · simp [replicateArtifact, hxor, raise] at hok
    rw [replicateArtifact_normalise env hxor hmode hraw hloads hv hmt, emit_bind] at hok ⊢
    obtain ⟨rfl, c, hc⟩ := normaliseToMultiarch_ok env hok
    refine ⟨rfl, c, ?_⟩
    simp only [List.getLast?_cons, hc]
    rfl

def sampleManifest : OciImageManifest := ⟨⟨"sha256:cfg", 2⟩, [], []⟩

def singleImageRegistry : Registry where
  manifestRaw _ _ := .ok ⟨"image", none⟩
  loads _ := .ok ⟨2, some ociManifestSchemaV2Mime, .error ⟨.typeError, "not a list"⟩,
    .ok sampleManifest, none⟩
  manifest _ := .ok ()
  v1ManifestToV2 _ := .ok sampleManifest
  toDigestHash _ := .ok "sha256:image"
  fromSingleImage _ _ := .ok ⟨"linux", "amd64"⟩
  headBlob _ _ := true
  blobExists _ _ := true
  uncompressedDigest d := d
  synthesiseCfg _ _ := "cfg"
  dumpsList _ := "list"
  dumpsImage _ := "image"
  sha256 s := s

def normaliseArgs : ReplicateArgs :=
  ⟨⟨"src/repo", some (.symbolic "1.0")⟩, ⟨"tgt/repo", none⟩, false, some (.passed 0),
    .normaliseToMultiarch, none, []⟩

theorem untagged_target_gets_list_without_digest :
    normaliseArgs.tgt.tag = none ∧
    ∃ c, (replicateArtifact singleImageRegistry 2 normaliseArgs).calls.getLast? =
      some (.putManifest c normaliseArgs.tgt "list") :=
  ⟨rfl, (normalise_final_put_ignores_tag_rule singleImageRegistry 2 normaliseArgs rfl
    ⟨_, _, rfl, rfl, rfl, .inl rfl⟩ rfl).2⟩

section Verbatim

variable (env : Registry)

def finalTarget (tgt : OciImageReference) (rawManifest : String) : OciImageReference :=
  if tgt.hasTag then tgt else tgt.withDigest (digestOf env rawManifest)

theorem putFinalManifest_eq (client : Client) (tgt : OciImageReference) (rawManifest : String) :
    putFinalManifest env client tgt rawManifest =
      ⟨[.putManifest client (finalTarget env tgt rawManifest) rawManifest],
        .ok (finalTarget env tgt rawManifest, rawManifest)⟩ :=
  rfl

def AnnotationsPresent (current annotations : Annotations) : Prop :=
  ∀ k v, (k, v) ∈ annotations → current.lookup k = some v

theorem mergeAnnotations_of_present : ∀ {current annotations : Annotations},
    AnnotationsPresent current annotations → mergeAnnotations current annotations = (current, false)
  | _, [], _ => rfl
  | current, (k, v) :: rest, h => by
    rw [mergeAnnotations, if_pos (h k v (List.mem_cons_self _ _))]
    exact mergeAnnotations_of_present fun k' v' hm => h k' v' (List.mem_cons_of_mem _ hm)

theorem merged_of_present {current annotations : Annotations}
    (h : AnnotationsPresent current annotations) :
    (if annotations = [] then (current, false) else mergeAnnotations current annotations) =
      (current, false) := by
  split
  · rfl
  · exact mergeAnnotations_of_present h

theorem blobLoop_present (client : Client) (src tgt : OciImageReference) :
    ∀ (idx : Nat) (blobs : List OciBlobRef), (∀ b ∈ blobs, env.blobExists src b.digest = true) →
      (blobLoop env client src tgt false idx blobs (false, none)).result = .ok (false, none)
  | _, [], _ => rfl
  | idx, b :: blobs, h => by
    have ih := blobLoop_present client src tgt (idx + 1) blobs
      fun b' hb => h b' (List.mem_cons_of_mem _ hb)
    have hb := h b (List.mem_cons_self _ _)
    rw [blobLoop]
    cases hh : env.headBlob tgt b.digest <;> simp [hh, hb, ih]

theorem replicateImage_verbatim (client : Client) (args : ReplicateArgs) (m : OciImageManifest)
    (raw : String) (hblobs : ∀ b ∈ m.blobs, env.blobExists args.src b.digest = true)
    (hann : AnnotationsPresent m.annotations args.annotations) :
    (replicateImage env client args m raw false none).result =
      .ok (finalTarget env args.tgt raw, raw) ∧
    (replicateImage env client args m raw false none).calls.getLast? =
      some (.putManifest client (finalTarget env args.tgt raw) raw) := by
  have hloop : (blobLoop env client args.src args.tgt (none : Option (List Digest)).isSome 0
      m.blobs (false, none)).result = .ok (false, none) :=
    blobLoop_present env client args.src args.tgt 0 m.blobs hblobs
  unfold replicateImage
  rw [bind_of_ok hloop]
  simp only [Bool.false_eq_true, if_false, pure_bind, merged_of_present hann, putFinalManifest_eq,
    List.getLast?_concat, and_true]

def VerbatimImage (src : OciImageReference) (accept : Option AcceptHeader)
    (annotations : Annotations) (resp : ManifestResponse) : Prop :=
  env.manifestRaw src accept = .ok resp ∧ ∃ json m, env.loads resp.text = .ok json ∧
    json.schemaVersion = 2 ∧
    (effectiveMediaType resp json = ociManifestSchemaV2Mime ∨
      effectiveMediaType resp json = dockerManifestSchemaV2Mime) ∧
    json.asManifest = .ok m ∧ (∀ b ∈ m.blobs, env.blobExists src b.digest = true) ∧
    AnnotationsPresent m.annotations annotations

def VerbatimList (src : OciImageReference) (accept : Option AcceptHeader)
    (annotations : Annotations) (resp : ManifestResponse) (ml : OciImageManifestList)
    (subResp : OciImageManifestListEntry → ManifestResponse) : Prop :=
  env.manifestRaw src accept = .ok resp ∧ ∃ json, env.loads resp.text = .ok json ∧
    json.schemaVersion = 2 ∧
    (effectiveMediaType resp json = dockerManifestListMime ∨
      effectiveMediaType resp json = ociImageIndexMime) ∧
    json.asManifestList = .ok ml ∧ AnnotationsPresent ml.annotations annotations ∧
    ∀ e ∈ ml.manifests, VerbatimImage env ⟨src.refWithoutTag, some (.digest e.digest)⟩ none
      annotations (subResp e) ∧ digestOf env (subResp e).text = e.digest

theorem replicateArtifact_image {fuel : Nat} {args : ReplicateArgs} {resp : ManifestResponse}
    {json : ManifestJson} {m : OciImageManifest} (hxor : args.credentialsLookup ≠ args.ociClient.isSome)
    (hmode : args.mode ≠ .normaliseToMultiarch)
    (hraw : env.manifestRaw args.src args.mode.acceptHeader = .ok resp)
    (hloads : env.loads resp.text = .ok json) (hv : json.schemaVersion = 2)
    (hmt : effectiveMediaType resp json = ociManifestSchemaV2Mime ∨
      effectiveMediaType resp json = dockerManifestSchemaV2Mime) (hm : json.asManifest = .ok m) :
    replicateArtifact env (fuel + 1) args =
      emit (.manifestRaw (args.ociClient.getD .created) args.src args.mode.acceptHeader) >>=
        fun _ => replicateImage env (args.ociClient.getD .created) args m resp.text false none := by
  have hlist : ¬ (effectiveMediaType resp json = dockerManifestListMime ∨
      effectiveMediaType resp json = ociImageIndexMime) := by
    rcases hmt with h | h <;> rw [h] <;> decide
  simp only [effectiveMediaType] at hlist hmt
  simp only [replicateArtifact, hxor, if_false, hraw, hloads, liftExcept_ok, pure_bind]
  simp only [hv, hmode, hlist, hmt, hm, if_true, if_false, liftExcept_ok, pure_bind]
  rfl

theorem replicateArtifact_list {fuel : Nat} {args : ReplicateArgs} {resp : ManifestResponse}
    {json : ManifestJson} (hxor : args.credentialsLookup ≠ args.ociClient.isSome)
    (hraw : env.manifestRaw args.src args.mode.acceptHeader = .ok resp)
    (hloads : env.loads resp.text = .ok json) (hv : json.schemaVersion = 2)
    (hmt : effectiveMediaType resp json = dockerManifestListMime ∨
      effectiveMediaType resp json = ociImageIndexMime) :
    replicateArtifact env (fuel + 1) args =
      emit (.manifestRaw (args.ociClient.getD .created) args.src args.mode.acceptHeader) >>=
        fun _ => replicateManifestList env (args.ociClient.getD .created) args
          (fun src tgt => replicateArtifact env fuel ⟨src, tgt, false,
            some (args.ociClient.getD .created), .registryDefaults, none, args.annotations⟩)
          json (effectiveMediaType resp json) resp.text := by
  simp only [effectiveMediaType] at hmt
  simp only [replicateArtifact, hxor, if_false, hraw, hloads, liftExcept_ok, pure_bind]
  simp only [hv, hmt, if_true, if_false, effectiveMediaType]
  rfl

theorem subManifestLoop_verbatim (args : ReplicateArgs) (hpf : args.platformFilter = none)
    (replicate : OciImageReference → OciImageReference → Trace Call Replicated)
    (srcName tgtName : String) (manifests : List OciImageManifestListEntry) (dirty : Bool) :
    ∀ (idx : Nat) (subs : List OciImageManifestListEntry),
      (∀ e ∈ subs, ∃ r text, (replicate ⟨srcName, some (.digest e.digest)⟩ ⟨tgtName, none⟩).result =
        .ok (r, text) ∧ digestOf env text = e.digest) →
      (subManifestLoop env args replicate srcName tgtName idx subs (manifests, dirty)).result =
        .ok (manifests, dirty) ∧
      ∀ e ∈ subs, ∀ c ∈ (replicate ⟨srcName, some (.digest e.digest)⟩ ⟨tgtName, none⟩).calls,
        c ∈ (subManifestLoop env args replicate srcName tgtName idx subs (manifests, dirty)).calls
  | _, [], _ => ⟨rfl, fun _ h => absurd h (List.not_mem_nil _)⟩
  | idx, e :: subs, h => by
    obtain ⟨r, text, hr, hd⟩ := h e (List.mem_cons_self _ _)
    obtain ⟨ih, ihc⟩ := subManifestLoop_verbatim args hpf replicate srcName tgtName manifests
      dirty (idx + 1) subs fun e' he => h e' (List.mem_cons_of_mem _ he)
    have hstep : subManifestLoop env args replicate srcName tgtName idx (e :: subs)
        (manifests, dirty) =
          ⟨(replicate ⟨srcName, some (.digest e.digest)⟩ ⟨tgtName, none⟩).calls ++
            (subManifestLoop env args replicate srcName tgtName (idx + 1) subs (manifests, dirty)).calls,
            (subManifestLoop env args replicate srcName tgtName (idx + 1) subs
              (manifests, dirty)).result⟩ := by
      rw [subManifestLoop, hpf]
      simp only [pure_bind, Bool.not_true, Bool.false_eq_true, if_false]
      rw [bind_of_ok hr]
      simp only [hd, ne_eq, not_true_eq_false, if_false]
    rw [hstep]
    refine ⟨ih, fun e' he c hc => ?_⟩
    rcases List.mem_cons.mp he with rfl | he
    · exact List.mem_append_left _ hc
    · exact List.mem_append_right _ (ihc e' he c hc)

theorem replicateManifestList_verbatim (client : Client) (args : ReplicateArgs)
    (hpf : args.platformFilter = none)
    (replicate : OciImageReference → OciImageReference → Trace Call Replicated)
    {json : ManifestJson} {ml : OciImageManifestList} (mediaType raw : String)
    (hml : json.asManifestList = .ok ml) (hann : AnnotationsPresent ml.annotations args.annotations)
    (hsubs : ∀ e ∈ ml.manifests, ∃ r text, (replicate ⟨args.src.refWithoutTag,
      some (.digest e.digest)⟩ ⟨args.tgt.refWithoutTag, none⟩).result = .ok (r, text) ∧
        digestOf env text = e.digest) :
    (replicateManifestList env client args replicate json mediaType raw).result =
      .ok (finalTarget env args.tgt raw, raw) ∧
    (replicateManifestList env client args replicate json mediaType raw).calls.getLast? =
      some (.putManifest client (finalTarget env args.tgt raw) raw) ∧
    ∀ e ∈ ml.manifests, ∀ c ∈ (replicate ⟨args.src.refWithoutTag, some (.digest e.digest)⟩
      ⟨args.tgt.refWithoutTag, none⟩).calls,
        c ∈ (replicateManifestList env client args replicate json mediaType raw).calls := by
  obtain ⟨hloop, hcalls⟩ := subManifestLoop_verbatim env args hpf replicate
    args.src.refWithoutTag args.tgt.refWithoutTag ml.manifests false 0 ml.manifests hsubs
  unfold replicateManifestList
  simp only [hml, liftExcept_ok, pure_bind]
  rw [bind_of_ok hloop]
  simp only [merged_of_present hann, Bool.or_false, Bool.false_eq_true, if_false,
    putFinalManifest_eq, List.getLast?_concat, true_and]
  exact fun e he c hc => List.mem_append_left _ (hcalls e he c hc)

theorem replicateArtifact_verbatim_image {fuel : Nat} {args : ReplicateArgs}
    {resp : ManifestResponse} (hxor : args.credentialsLookup ≠ args.ociClient.isSome)
    (hmode : args.mode ≠ .normaliseToMultiarch)
    (h : VerbatimImage env args.src args.mode.acceptHeader args.annotations resp) :
    (replicateArtifact env (fuel + 1) args).result =
      .ok (finalTarget env args.tgt resp.text, resp.text) ∧
    (replicateArtifact env (fuel + 1) args).calls.getLast? = some (.putManifest
      (args.ociClient.getD .created) (finalTarget env args.tgt resp.text) resp.text) := by
  obtain ⟨hraw, json, m, hloads, hv, hmt, hm, hblobs, hann⟩ := h
  obtain ⟨hr, hc⟩ := replicateImage_verbatim env (args.ociClient.getD .created) args m resp.text
    hblobs hann
  rw [replicateArtifact_image env hxor hmode hraw hloads hv hmt hm, emit_bind]
  refine ⟨hr, ?_⟩
  rw [List.getLast?_cons, hc]
  rfl

theorem replicate_puts_source_bytes_verbatim (fuel : Nat) (args : ReplicateArgs)
    (resp : ManifestResponse) (hxor : args.credentialsLookup ≠ args.ociClient.isSome) :
    (args.mode ≠ .normaliseToMultiarch →
      VerbatimImage env args.src args.mode.acceptHeader args.annotations resp →
      (replicateArtifact env (fuel + 1) args).result =
        .ok (finalTarget env args.tgt resp.text, resp.text) ∧
      (replicateArtifact env (fuel + 1) args).calls.getLast? = some (.putManifest
        (args.ociClient.getD .created) (finalTarget env args.tgt resp.text) resp.text)) ∧
    (∀ ml subResp, args.platformFilter = none →
      VerbatimList env args.src args.mode.acceptHeader args.annotations resp ml subResp →
      (replicateArtifact env (fuel + 2) args).result =
        .ok (finalTarget env args.tgt resp.text, resp.text) ∧
      (replicateArtifact env (fuel + 2) args).calls.getLast? = some (.putManifest
        (args.ociClient.getD .created) (finalTarget env args.tgt resp.text) resp.text) ∧
      ∀ e ∈ ml.manifests, .putManifest (args.ociClient.getD .created)
        ⟨args.tgt.refWithoutTag, some (.digest e.digest)⟩ (subResp e).text ∈
          (replicateArtifact env (fuel + 2) args).calls) := by
  refine ⟨fun hmode h => replicateArtifact_verbatim_image env hxor hmode h,
    fun ml subResp hpf ⟨hraw, json, hloads, hv, hmt, hml, hann, hsubs⟩ => ?_⟩
  have hsub : ∀ e ∈ ml.manifests, (replicateArtifact env (fuel + 1)
      ⟨⟨args.src.refWithoutTag, some (.digest e.digest)⟩, ⟨args.tgt.refWithoutTag, none⟩, false,
        some (args.ociClient.getD .created), .registryDefaults, none, args.annotations⟩).result =
        .ok (⟨args.tgt.refWithoutTag, some (.digest e.digest)⟩, (subResp e).text) ∧
      (replicateArtifact env (fuel + 1)
      ⟨⟨args.src.refWithoutTag, some (.digest e.digest)⟩, ⟨args.tgt.refWithoutTag, none⟩, false,
        some (args.ociClient.getD .created), .registryDefaults, none, args.annotations⟩).calls.getLast? =
        some (.putManifest (args.ociClient.getD .created)
          ⟨args.tgt.refWithoutTag, some (.digest e.digest)⟩ (subResp e).text) := by
    intro e he
    obtain ⟨himg, hd⟩ := hsubs e he
    have h := @replicateArtifact_verbatim_image env fuel
      ⟨⟨args.src.refWithoutTag, some (.digest e.digest)⟩, ⟨args.tgt.refWithoutTag, none⟩, false,
        some (args.ociClient.getD .created), .registryDefaults, none, args.annotations⟩ (subResp e)
      (by simp) nofun himg
    simpa only [finalTarget, OciImageReference.hasTag, Option.isSome_none, Bool.false_eq_true,
      if_false, OciImageReference.withDigest, hd] using h
  obtain ⟨hr, hc, hcalls⟩ := replicateManifestList_verbatim env (args.ociClient.getD .created)
    args hpf (fun src tgt => replicateArtifact env (fuel + 1) ⟨src, tgt, false,
      some (args.ociClient.getD .created), .registryDefaults, none, args.annotations⟩)
    (effectiveMediaType resp json) resp.text hml hann
    fun e he => ⟨_, _, (hsub e he).1, (hsubs e he).2⟩
  rw [replicateArtifact_list env hxor hraw hloads hv hmt, emit_bind]
  refine ⟨hr, by rw [List.getLast?_cons, hc]; rfl, fun e he => List.mem_cons_of_mem _
    (hcalls e he _ (List.mem_of_getLast?_eq_some (hsub e he).2))⟩

def preferArgs : ReplicateArgs :=
  ⟨⟨"src/repo", some (.symbolic "1.0")⟩, ⟨"tgt/repo", none⟩, false, some (.passed 0),
    .preferMultiarch, none, []⟩

def imageIndex : OciImageManifestList :=
  ⟨[⟨"sha256:image", ociManifestSchemaV2Mime, 5, some ⟨"linux", "amd64"⟩⟩], ociImageIndexMime, []⟩

def indexRegistry : Registry :=
  { singleImageRegistry with
    manifestRaw := fun ref _ =>
      .ok (if ref.tag = some (.digest "sha256:image") then ⟨"image", none⟩ else ⟨"index", none⟩)
    loads := fun text => if text = "index" then
        .ok ⟨2, some ociImageIndexMime, .ok imageIndex, .error ⟨.typeError, "not an image"⟩, none⟩
      else singleImageRegistry.loads text }

theorem image_and_index_put_verbatim :
    (replicateArtifact singleImageRegistry 1 preferArgs).result =
      .ok (⟨"tgt/repo", some (.digest "sha256:image")⟩, "image") ∧
    VerbatimList indexRegistry preferArgs.src preferArgs.mode.acceptHeader preferArgs.annotations
        ⟨"index", none⟩ imageIndex (fun _ => ⟨"image", none⟩) ∧
      (replicateArtifact indexRegistry 2 preferArgs).result =
        .ok (⟨"tgt/repo", some (.digest "sha256:index")⟩, "index") ∧
      .putManifest (.passed 0) ⟨"tgt/repo", some (.digest "sha256:image")⟩ "image" ∈
        (replicateArtifact indexRegistry 2 preferArgs).calls := by
  have hlist : VerbatimList indexRegistry preferArgs.src preferArgs.mode.acceptHeader
      preferArgs.annotations ⟨"index", none⟩ imageIndex (fun _ => ⟨"image", none⟩) :=
    ⟨rfl, _, rfl, rfl, .inr rfl, rfl, (fun _ _ h => nomatch h), fun e he => by
      obtain rfl := List.mem_singleton.mp he
      exact ⟨⟨rfl, _, _, rfl, rfl, .inl rfl, rfl, fun _ _ => rfl, fun _ _ h => nomatch h⟩, rfl⟩⟩
  obtain ⟨hr, -, hcalls⟩ := (replicate_puts_source_bytes_verbatim indexRegistry 0 preferArgs
    ⟨"index", none⟩ nofun).2 imageIndex (fun _ => ⟨"image", none⟩) rfl hlist
  exact ⟨((replicate_puts_source_bytes_verbatim singleImageRegistry 0 preferArgs ⟨"image", none⟩
    nofun).1 nofun ⟨rfl, _, _, rfl, rfl, .inl rfl, rfl, fun _ _ => rfl, fun _ _ h => nomatch h⟩).1,
    hlist, hr, hcalls _ (List.mem_singleton_self _)⟩

end Verbatim

section ListEntries

variable (env : Registry)

def filterKeep (args : ReplicateArgs) (srcReference : OciImageReference)
    (sub : OciImageManifestListEntry) : Trace Call Bool :=
  match args.platformFilter with
  | none => pure true
  | some platformFilter =>
    emit (.fromSingleImage args.ociClient srcReference) >>= fun _ =>
    liftExcept (env.fromSingleImage srcReference sub.platform) >>= fun platform =>
    pure (platformFilter platform)

def patchedEntry (sub : OciImageManifestListEntry) (bytes : String) : OciImageManifestListEntry :=
  if digestOf env bytes ≠ sub.digest then
    { sub with digest := digestOf env bytes, size := bytes.utf8ByteSize }
  else sub

def keptPatched (keep : OciImageManifestListEntry → Bool)
    (rep : OciImageManifestListEntry → Replicated) (subs : List OciImageManifestListEntry) :
    List OciImageManifestListEntry :=
  subs.filterMap fun e => if keep e then some (patchedEntry env e (rep e).2) else none

theorem pyInsert_perm {α : Type} (l : List α) (idx : Nat) (x : α) :
    (pyInsert l idx x).Perm (x :: l) := by
  have h : (l.take idx ++ x :: l.drop idx).Perm (x :: (l.take idx ++ l.drop idx)) :=
    List.perm_middle
  rwa [List.take_append_drop] at h

theorem pyRemove_of_mem {α : Type} [DecidableEq α] {l : List α} {x : α} (h : x ∈ l) :
    pyRemove l x = .ok (l.erase x) := if_pos h

theorem subManifestLoop_cons (args : ReplicateArgs)
    (replicate : OciImageReference → OciImageReference → Trace Call Replicated)
    (srcName tgtName : String) (idx : Nat) (sub : OciImageManifestListEntry)
    (subs manifests : List OciImageManifestListEntry) (dirty : Bool) :
    subManifestLoop env args replicate srcName tgtName idx (sub :: subs) (manifests, dirty) =
      filterKeep env args ⟨srcName, some (.digest sub.digest)⟩ sub >>= fun keep =>
      if !keep then
        liftExcept (pyRemove manifests sub) >>= fun manifests =>
        subManifestLoop env args replicate srcName tgtName (idx + 1) subs (manifests, true)
      else
        replicate ⟨srcName, some (.digest sub.digest)⟩ ⟨tgtName, none⟩ >>= fun replicated =>
        if digestOf env replicated.2 ≠ sub.digest then
          liftExcept (pyRemove manifests sub) >>= fun manifests =>
          subManifestLoop env args replicate srcName tgtName (idx + 1) subs
            (pyInsert manifests idx
              { sub with digest := digestOf env replicated.2, size := replicated.2.utf8ByteSize },
              true)
        else subManifestLoop env args replicate srcName tgtName (idx + 1) subs (manifests, dirty) :=
  rfl

variable {env} {args : ReplicateArgs}
  {replicate : OciImageReference → OciImageReference → Trace Call Replicated}
  {srcName tgtName : String} {keep : OciImageManifestListEntry → Bool}
  {rep : OciImageManifestListEntry → Replicated}

def Outcomes (env : Registry) (args : ReplicateArgs)
    (replicate : OciImageReference → OciImageReference → Trace Call Replicated)
    (srcName tgtName : String) (keep : OciImageManifestListEntry → Bool)
    (rep : OciImageManifestListEntry → Replicated) (e : OciImageManifestListEntry) : Prop :=
  (filterKeep env args ⟨srcName, some (.digest e.digest)⟩ e).result = .ok (keep e) ∧
    (keep e = true → (replicate ⟨srcName, some (.digest e.digest)⟩ ⟨tgtName, none⟩).result =
      .ok (rep e))

theorem subManifestLoop_perm : ∀ (subs : List OciImageManifestListEntry) (idx : Nat)
    (ms done : List OciImageManifestListEntry) (dirty : Bool),
    (∀ e ∈ subs, Outcomes env args replicate srcName tgtName keep rep e) →
    ms.Perm (done ++ subs) →
    ∃ ms' dirty', (subManifestLoop env args replicate srcName tgtName idx subs (ms, dirty)).result =
      .ok (ms', dirty') ∧ ms'.Perm (done ++ keptPatched env keep rep subs)
  | [], _, ms, done, dirty, _, hms => ⟨ms, dirty, rfl, by simpa [keptPatched] using hms⟩
  | e :: subs, idx, ms, done, dirty, h, hms => by
    obtain ⟨hk, hr⟩ := h e (List.mem_cons_self _ _)
    have h' := fun e' he => h e' (List.mem_cons_of_mem _ he)
    have hmem : e ∈ ms := hms.symm.subset (by simp)
    have herase : (ms.erase e).Perm (done ++ subs) := by
      simpa using (hms.trans List.perm_middle).erase e
    rw [subManifestLoop_cons, bind_of_ok hk]
    cases hke : keep e with
    | false =>
      simp only [Bool.not_false, if_true, pyRemove_of_mem hmem, liftExcept_ok, pure_bind]
      simpa [keptPatched, hke] using subManifestLoop_perm subs (idx + 1) _ done true h' herase
    | true =>
      simp only [Bool.not_true, Bool.false_eq_true, if_false]
      rw [bind_of_ok (hr hke)]
      by_cases hd : digestOf env (rep e).2 ≠ e.digest
      · rw [if_pos hd]
        simp only [pyRemove_of_mem hmem, liftExcept_ok, pure_bind]
        have hpe : patchedEntry env e (rep e).2 =
            { e with digest := digestOf env (rep e).2, size := (rep e).2.utf8ByteSize } := if_pos hd
        obtain ⟨ms', dirty', hres, hperm⟩ := subManifestLoop_perm subs (idx + 1) _
          (done ++ [patchedEntry env e (rep e).2]) true h'
          (((pyInsert_perm _ _ _).trans (herase.cons _)).trans
            (by rw [hpe, List.append_assoc, List.singleton_append]; exact List.perm_middle.symm))
        exact ⟨ms', dirty', hres, by simpa [keptPatched, hke] using hperm⟩
      · rw [if_neg hd]
        have hpe : patchedEntry env e (rep e).2 = e := if_neg hd
        obtain ⟨ms', dirty', hres, hperm⟩ := subManifestLoop_perm subs (idx + 1) ms
          (done ++ [e]) dirty h' (by simpa using hms)
        exact ⟨ms', dirty', hres, by simpa [keptPatched, hke, hpe] using hperm⟩

theorem keptPatched_of_all_kept : ∀ {subs : List OciImageManifestListEntry},
    (∀ e ∈ subs, keep e = true) →
      keptPatched env keep rep subs = subs.map fun e => patchedEntry env e (rep e).2
  | [], _ => rfl
  | e :: subs, h => by
    simp only [keptPatched, List.filterMap_cons, h e (List.mem_cons_self _ _), if_true,
      List.map_cons, List.cons.injEq, true_and]
    exact keptPatched_of_all_kept fun e' he => h e' (List.mem_cons_of_mem _ he)

theorem subManifestLoop_in_place (all : List OciImageManifestListEntry)
    (hall : ∀ e ∈ all, Outcomes env args replicate srcName tgtName keep rep e ∧ keep e = true)
    (hfresh : ∀ e ∈ all, patchedEntry env e (rep e).2 ≠ e → patchedEntry env e (rep e).2 ∉ all) :
    ∀ (subs done : List OciImageManifestListEntry) (dirty : Bool), (∀ e ∈ subs, e ∈ all) →
      (∀ x ∈ done, ∃ e ∈ all, x = patchedEntry env e (rep e).2) →
      ∃ dirty', (subManifestLoop env args replicate srcName tgtName done.length subs
        (done ++ subs, dirty)).result = .ok (done ++ subs.map fun e => patchedEntry env e (rep e).2, dirty')
  | [], done, dirty, _, _ => ⟨dirty, by simp only [List.append_nil, List.map_nil]; rfl⟩
  | e :: subs, done, dirty, hsubs, hdone => by
    have he := hsubs e (List.mem_cons_self _ _)
    obtain ⟨⟨hk, hr⟩, hke⟩ := hall e he
    have hsubs' := fun e' h => hsubs e' (List.mem_cons_of_mem _ h)
    have hdone' : ∀ x ∈ done ++ [patchedEntry env e (rep e).2],
        ∃ e' ∈ all, x = patchedEntry env e' (rep e').2 := fun x hx =>
      (List.mem_append.mp hx).elim (hdone x) fun hx => ⟨e, he, List.mem_singleton.mp hx⟩
    rw [subManifestLoop_cons, bind_of_ok hk, hke]
    simp only [Bool.not_true, Bool.false_eq_true, if_false]
    rw [bind_of_ok (hr hke)]
    by_cases hd : digestOf env (rep e).2 ≠ e.digest
    · rw [if_pos hd]
      have hpe : patchedEntry env e (rep e).2 =
          { e with digest := digestOf env (rep e).2, size := (rep e).2.utf8ByteSize } := if_pos hd
      have hnot : e ∉ done := fun hx => by
        obtain ⟨e', he', hx⟩ := hdone e hx
        by_cases hp' : patchedEntry env e' (rep e').2 = e'
        · rw [hp'] at hx
          subst hx
          exact hd (congrArg OciImageManifestListEntry.digest (hpe.symm.trans hp'))
        · exact hfresh e' he' hp' (hx ▸ he)
      have hrem : (done ++ e :: subs).erase e = done ++ subs := by
        rw [List.erase_append_right _ hnot, List.erase_cons_head]
      have hins : pyInsert (done ++ subs) done.length (patchedEntry env e (rep e).2) =
          (done ++ [patchedEntry env e (rep e).2]) ++ subs := by
        simp [pyInsert]
      simp only [pyRemove_of_mem (List.mem_append_right _ (List.mem_cons_self _ _)), hrem,
        liftExcept_ok, pure_bind, ← hpe, hins]
      obtain ⟨dirty', h⟩ := subManifestLoop_in_place all hall hfresh subs _ true hsubs' hdone'
      exact ⟨dirty', by simpa using h⟩
    · rw [if_neg hd]
      have hpe : patchedEntry env e (rep e).2 = e := if_neg hd
      obtain ⟨dirty', h⟩ := subManifestLoop_in_place all hall hfresh subs _ dirty hsubs' hdone'
      exact ⟨dirty', by simpa [hpe] using h⟩

theorem manifest_list_upload_keeps_entries_not_order (env : Registry) (args : ReplicateArgs)
    (replicate : OciImageReference → OciImageReference → Trace Call Replicated)
    (srcName tgtName : String) (subs : List OciImageManifestListEntry)
    (keep : OciImageManifestListEntry → Bool) (rep : OciImageManifestListEntry → Replicated)
    (h : ∀ e ∈ subs, Outcomes env args replicate srcName tgtName keep rep e) :
    ∃ ms dirty, (subManifestLoop env args replicate srcName tgtName 0 subs (subs, false)).result =
        .ok (ms, dirty) ∧ ms.Perm (keptPatched env keep rep subs) ∧
      ((∀ e ∈ subs, keep e = true) →
        (∀ e ∈ subs, patchedEntry env e (rep e).2 ≠ e → patchedEntry env e (rep e).2 ∉ subs) →
        ms = keptPatched env keep rep subs) := by
  obtain ⟨ms, dirty, hres, hperm⟩ := subManifestLoop_perm subs 0 subs [] false h (List.Perm.refl _)
  refine ⟨ms, dirty, hres, by simpa using hperm, fun hall hfresh => ?_⟩
  obtain ⟨dirty', hin⟩ := subManifestLoop_in_place subs (fun e he => ⟨h e he, hall e he⟩) hfresh
    subs [] false (fun _ h => h) (by simp)
  simp only [List.length_nil, List.nil_append, hres, Except.ok.injEq, Prod.mk.injEq] at hin
  rw [hin.1, keptPatched_of_all_kept hall]

end ListEntries

def entryX : OciImageManifestListEntry :=
  ⟨"sha256:x", ociManifestSchemaV2Mime, 1, some ⟨"windows", "amd64"⟩⟩

def entryA : OciImageManifestListEntry :=
  ⟨"sha256:a", ociManifestSchemaV2Mime, 1, some ⟨"linux", "amd64"⟩⟩

def entryB : OciImageManifestListEntry :=
  ⟨"sha256:b", ociManifestSchemaV2Mime, 1, some ⟨"linux", "arm64"⟩⟩

def platformRegistry : Registry :=
  { singleImageRegistry with fromSingleImage := fun _ p => .ok (p.getD ⟨"linux", "amd64"⟩) }

def linuxOnlyArgs : ReplicateArgs :=
  ⟨⟨"src/repo", some (.symbolic "1.0")⟩, ⟨"tgt/repo", some (.symbolic "1.0")⟩, false,
    some (.passed 0), .preferMultiarch, some (fun p => p.os == "linux"), []⟩

def keepLinux (e : OciImageManifestListEntry) : Bool :=
  (e.platform.getD ⟨"linux", "amd64"⟩).os == "linux"

def entryBytes (e : OciImageManifestListEntry) : Replicated :=
  (⟨"tgt/repo", none⟩, if e.digest = "sha256:a" then "a2" else "b")

def entryReplication (src tgt : OciImageReference) : Trace Call Replicated :=
  pure (tgt, if src.tag = some (.digest "sha256:a") then "a2" else "b")

theorem rejected_entry_shifts_patched_entry :
    (∃ ms dirty, (subManifestLoop platformRegistry linuxOnlyArgs entryReplication "src/repo"
        "tgt/repo" 0 [entryX, entryA, entryB] ([entryX, entryA, entryB], false)).result =
        .ok (ms, dirty) ∧ ms.Perm (keptPatched platformRegistry keepLinux entryBytes
          [entryX, entryA, entryB]) ∧
      ((∀ e ∈ [entryX, entryA, entryB], keepLinux e = true) →
        (∀ e ∈ [entryX, entryA, entryB], patchedEntry platformRegistry e (entryBytes e).2 ≠ e →
          patchedEntry platformRegistry e (entryBytes e).2 ∉ [entryX, entryA, entryB]) →
        ms = keptPatched platformRegistry keepLinux entryBytes [entryX, entryA, entryB])) ∧
    (subManifestLoop platformRegistry linuxOnlyArgs entryReplication "src/repo" "tgt/repo" 0
        [entryX, entryA, entryB] ([entryX, entryA, entryB], false)).result =
      .ok ([entryB, { entryA with digest := "sha256:a2", size := 2 }], true) ∧
    keptPatched platformRegistry keepLinux entryBytes [entryX, entryA, entryB] =
      [{ entryA with digest := "sha256:a2", size := 2 }, entryB] := by
  refine ⟨manifest_list_upload_keeps_entries_not_order platformRegistry linuxOnlyArgs
    entryReplication "src/repo" "tgt/repo" _ keepLinux entryBytes ?_, rfl, rfl⟩
  simp only [List.mem_cons, List.mem_singleton, List.not_mem_nil, or_false]
  rintro e (rfl | rfl | rfl) <;> exact ⟨rfl, fun _ => rfl⟩

section Synthesis

variable (env : Registry)

def synthesisedConfig (v1Compatibility : String) (m : OciImageManifest) : String :=
  env.synthesiseCfg v1Compatibility (some (m.layers.map fun l => env.uncompressedDigest l.digest))

theorem synthesiseCfg_layers (v1Compatibility : String) (m : OciImageManifest) :
    env.synthesiseCfg v1Compatibility (some (m.layers.map fun l => env.uncompressedDigest l.digest)) =
      synthesisedConfig env v1Compatibility m :=
  rfl

theorem blobLoop_collects (client : Client) (src tgt : OciImageReference) (needSynth : Bool) :
    ∀ (idx : Nat) (layers : List OciBlobRef) (acc : List Digest),
      (∀ l ∈ layers, env.blobExists src l.digest = true) →
      (blobLoop env client src tgt true (idx + 1) layers (needSynth, some acc)).result =
        .ok (needSynth, some (acc ++ layers.map fun l => env.uncompressedDigest l.digest))
  | _, [], acc, _ => by simp [blobLoop]
  | idx, l :: layers, acc, h => by
    have ih := blobLoop_collects client src tgt needSynth (idx + 1) layers
      (acc ++ [env.uncompressedDigest l.digest]) fun l' hl => h l' (List.mem_cons_of_mem _ hl)
    have hl := h l (List.mem_cons_self _ _)
    rw [blobLoop]
    cases hh : env.headBlob tgt l.digest <;> simp [hh, hl, ih]

theorem blobLoop_layers_present (client : Client) (src tgt : OciImageReference)
    (needSynth : Bool) : ∀ (idx : Nat) (layers : List OciBlobRef),
      (∀ l ∈ layers, env.blobExists src l.digest = true) →
      (blobLoop env client src tgt false (idx + 1) layers (needSynth, none)).result =
        .ok (needSynth, none)
  | _, [], _ => rfl
  | idx, l :: layers, h => by
    have ih := blobLoop_layers_present client src tgt needSynth (idx + 1) layers
      fun l' hl => h l' (List.mem_cons_of_mem _ hl)
    have hl := h l (List.mem_cons_self _ _)
    rw [blobLoop]
    cases hh : env.headBlob tgt l.digest <;> simp [hh, hl, ih]

theorem synthesiseCfgBlob_eq (client : Client) (tgt : OciImageReference) (raw : String)
    (m : OciImageManifest) (uncompressed : Option (List Digest)) {json : ManifestJson} {v : String}
    (hloads : env.loads raw = .ok json) (hv : json.v1Compatibility = some v) :
    synthesiseCfgBlob env client tgt raw m uncompressed =
      ⟨[.putBlob client tgt (digestOf env (env.synthesiseCfg v uncompressed))
          (env.synthesiseCfg v uncompressed).utf8ByteSize],
        .ok (env.dumpsImage { m with config := ⟨digestOf env (env.synthesiseCfg v uncompressed),
          (env.synthesiseCfg v uncompressed).utf8ByteSize⟩ })⟩ := by
  simp only [synthesiseCfgBlob, hloads, liftExcept_ok, pure_bind, hv]
  rfl

theorem replicateArtifact_schema1 {fuel : Nat} {args : ReplicateArgs} {resp : ManifestResponse}
    {json : ManifestJson} {m : OciImageManifest}
    (hxor : args.credentialsLookup ≠ args.ociClient.isSome)
    (hraw : env.manifestRaw args.src args.mode.acceptHeader = .ok resp)
    (hloads : env.loads resp.text = .ok json) (hv : json.schemaVersion = 1)
    (hmf : env.manifest args.src = .ok ()) (hconv : env.v1ManifestToV2 args.src = .ok m) :
    replicateArtifact env (fuel + 1) args =
      emit (.manifestRaw (args.ociClient.getD .created) args.src args.mode.acceptHeader) >>=
        fun _ => emit (.manifest (args.ociClient.getD .created) args.src) >>= fun _ =>
          replicateImage env (args.ociClient.getD .created) args m resp.text true (some []) := by
  simp only [replicateArtifact, hxor, if_false, hraw, hloads, liftExcept_ok, pure_bind, hv,
    if_true, hmf, hconv]

theorem replicateImage_synthesised (client : Client) (args : ReplicateArgs)
    (m : OciImageManifest) (raw : String) {json : ManifestJson} {v : String} (T : String)
    (hlayers : ∀ l ∈ m.layers, env.blobExists args.src l.digest = true)
    (hloads : env.loads raw = .ok json) (hv : json.v1Compatibility = some v)
    (hT : (if (if args.annotations = [] then (m.annotations, false)
          else mergeAnnotations m.annotations args.annotations).2 then
        env.dumpsImage { m with annotations := (if args.annotations = [] then (m.annotations, false)
          else mergeAnnotations m.annotations args.annotations).1 }
      else env.dumpsImage { m with config := ⟨digestOf env (synthesisedConfig env v m),
        (synthesisedConfig env v m).utf8ByteSize⟩ }) = T) :
    .putBlob client args.tgt (digestOf env (synthesisedConfig env v m))
        (synthesisedConfig env v m).utf8ByteSize ∈
      (replicateImage env client args m raw true (some [])).calls ∧
    (replicateImage env client args m raw true (some [])).result =
      .ok (finalTarget env args.tgt T, T) ∧
    (replicateImage env client args m raw true (some [])).calls.getLast? =
      some (.putManifest client (finalTarget env args.tgt T) T) := by
  have hloop : (blobLoop env client args.src args.tgt (some ([] : List Digest)).isSome 0 m.blobs
      (true, some [])).result =
      .ok (true, some (m.layers.map fun l => env.uncompressedDigest l.digest)) := by
    simpa [OciImageManifest.blobs, blobLoop] using
      blobLoop_collects env client args.src args.tgt true 0 m.layers [] hlayers
  unfold replicateImage
  rw [bind_of_ok hloop]
  simp only [if_true, synthesiseCfgBlob_eq env client args.tgt raw m _ hloads hv, mk_ok_bind]
  simp only [synthesiseCfg_layers, hT, putFinalManifest_eq]
  exact ⟨by simp, trivial, by rw [← List.append_assoc, List.getLast?_concat]⟩

theorem replicateImage_cfg_absent (client : Client) (args : ReplicateArgs)
    (m : OciImageManifest) (raw : String) {json : ManifestJson}
    (hcfgT : env.headBlob args.tgt m.config.digest = false)
    (hcfgS : env.blobExists args.src m.config.digest = false)
    (hlayers : ∀ l ∈ m.layers, env.blobExists args.src l.digest = true)
    (hloads : env.loads raw = .ok json) (hv : json.v1Compatibility = none) :
    (replicateImage env client args m raw false none).result =
      .error (.raised ⟨.keyError, "\x27history\x27"⟩) := by
  have hloop : (blobLoop env client args.src args.tgt (none : Option (List Digest)).isSome 0
      m.blobs (false, none)).result = .ok (true, none) := by
    rw [OciImageManifest.blobs, blobLoop]
    simp [hcfgT, hcfgS, blobLoop_layers_present env client args.src args.tgt true 0 m.layers hlayers]
  have hsynth : (synthesiseCfgBlob env client args.tgt raw m none).result =
      .error (.raised ⟨.keyError, "\x27history\x27"⟩) := by
    simp [synthesiseCfgBlob, hloads, hv, raise]
  unfold replicateImage
  rw [bind_of_ok hloop]
  simp only [if_true]
  rw [bind_of_error hsynth]

theorem synthesised_config_named_only_when_clean (fuel : Nat) (args : ReplicateArgs)
    (resp : ManifestResponse) (json : ManifestJson) (m : OciImageManifest)
    (hxor : args.credentialsLookup ≠ args.ociClient.isSome)
    (hraw : env.manifestRaw args.src args.mode.acceptHeader = .ok resp)
    (hloads : env.loads resp.text = .ok json) :
    (∀ v, json.schemaVersion = 1 → env.manifest args.src = .ok () →
      env.v1ManifestToV2 args.src = .ok m →
      (∀ l ∈ m.layers, env.blobExists args.src l.digest = true) →
      json.v1Compatibility = some v →
      .putBlob (args.ociClient.getD .created) args.tgt (digestOf env (synthesisedConfig env v m))
          (synthesisedConfig env v m).utf8ByteSize ∈ (replicateArtifact env (fuel + 1) args).calls ∧
      (AnnotationsPresent m.annotations args.annotations →
        (replicateArtifact env (fuel + 1) args).result =
          .ok (finalTarget env args.tgt (env.dumpsImage { m with config :=
            ⟨digestOf env (synthesisedConfig env v m), (synthesisedConfig env v m).utf8ByteSize⟩ }),
            env.dumpsImage { m with config :=
              ⟨digestOf env (synthesisedConfig env v m), (synthesisedConfig env v m).utf8ByteSize⟩ })) ∧
      ((mergeAnnotations m.annotations args.annotations).2 = true →
        (replicateArtifact env (fuel + 1) args).result =
          .ok (finalTarget env args.tgt (env.dumpsImage { m with annotations :=
            (mergeAnnotations m.annotations args.annotations).1 }),
            env.dumpsImage { m with annotations := (mergeAnnotations m.annotations args.annotations).1 }))) ∧
    (json.schemaVersion = 2 → args.mode ≠ .normaliseToMultiarch →
      (effectiveMediaType resp json = ociManifestSchemaV2Mime ∨
        effectiveMediaType resp json = dockerManifestSchemaV2Mime) →
      json.asManifest = .ok m → env.headBlob args.tgt m.config.digest = false →
      env.blobExists args.src m.config.digest = false →
      (∀ l ∈ m.layers, env.blobExists args.src l.digest = true) → json.v1Compatibility = none →
      (replicateArtifact env (fuel + 1) args).result =
        .error (.raised ⟨.keyError, "\x27history\x27"⟩)) := by
  refine ⟨fun v hv hmf hconv hlayers hcompat => ?_,
    fun hv hmode hmt hm hcfgT hcfgS hlayers hcompat => ?_⟩
  · have himage := fun T => replicateImage_synthesised env (args.ociClient.getD .created) args m
      resp.text T hlayers hloads hcompat
    rw [replicateArtifact_schema1 env hxor hraw hloads hv hmf hconv, emit_bind, emit_bind]
    refine ⟨List.mem_cons_of_mem _ (List.mem_cons_of_mem _ (himage _ rfl).1), fun hann => ?_,
      fun hdirty => ?_⟩
    · exact (himage _ (by rw [merged_of_present hann]; rfl)).2.1
    · have hne : args.annotations ≠ [] := fun h => by rw [h] at hdirty; cases hdirty
      exact (himage _ (by rw [if_neg hne, if_pos hdirty])).2.1
  · rw [replicateArtifact_image env hxor hmode hraw hloads hv hmt hm, emit_bind]
    exact replicateImage_cfg_absent env _ args m resp.text hcfgT hcfgS hlayers hloads hcompat

end Synthesis

def convertedManifest : OciImageManifest := ⟨⟨"sha256:converted", 0⟩, [⟨"sha256:layer", 3⟩], []⟩

def legacyRegistry : Registry where
  manifestRaw _ _ := .ok ⟨"legacy", none⟩
  loads _ := .ok ⟨1, none, .error ⟨.typeError, "not a list"⟩, .error ⟨.typeError, "schema 1"⟩,
    some "v1"⟩
  manifest _ := .ok ()
  v1ManifestToV2 _ := .ok convertedManifest
  toDigestHash _ := .ok "sha256:legacy"
  fromSingleImage _ _ := .ok ⟨"linux", "amd64"⟩
  headBlob _ _ := false
  blobExists _ _ := true
  uncompressedDigest d := d
  synthesiseCfg _ _ := "cfg"
  dumpsList _ := "list"
  dumpsImage m := m.config.digest
  sha256 s := s

def annotatedArgs : ReplicateArgs :=
  ⟨⟨"src/legacy", some (.symbolic "1.0")⟩, ⟨"tgt/legacy", some (.symbolic "1.0")⟩, false,
    some (.passed 0), .preferMultiarch, none, [("org.opencontainers.image.source", "repo")]⟩

def configlessRegistry : Registry :=
  { singleImageRegistry with
    headBlob := fun _ d => d != "sha256:cfg"
    blobExists := fun _ d => d != "sha256:cfg" }

theorem annotated_legacy_image_names_unuploaded_config :
    Call.putBlob (.passed 0) annotatedArgs.tgt "sha256:cfg" 3 ∈
      (replicateArtifact legacyRegistry 1 annotatedArgs).calls ∧
    (replicateArtifact legacyRegistry 1 annotatedArgs).result =
      .ok (annotatedArgs.tgt, "sha256:converted") ∧
    (replicateArtifact configlessRegistry 1 preferArgs).result =
      .error (.raised ⟨.keyError, "\x27history\x27"⟩) := by
  have hlegacy := (synthesised_config_named_only_when_clean legacyRegistry 0 annotatedArgs
    ⟨"legacy", none⟩ _ convertedManifest nofun rfl rfl).1 "v1" rfl rfl rfl (fun _ _ => rfl) rfl
  exact ⟨hlegacy.1, hlegacy.2.2 rfl, (synthesised_config_named_only_when_clean configlessRegistry 0
    preferArgs ⟨"image", none⟩ _ sampleManifest nofun rfl rfl).2 rfl nofun (.inl rfl) rfl rfl rfl
    (fun _ h => nomatch h) rfl⟩

end CcUtils.Oci.Replicate
