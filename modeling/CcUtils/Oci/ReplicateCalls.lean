import CcUtils.Oci.Replicate

namespace CcUtils.Oci.ReplicateCalls

open CcUtils.Python.Exceptions CcUtils.Python.Effects CcUtils.Python.Effects.Trace
  CcUtils.Oci.Replicate

def selectedClient (args : ReplicateArgs) : Client := args.ociClient.getD .created

def subArgs (args : ReplicateArgs) (ociClient : Option Client) (src tgt : OciImageReference) :
    ReplicateArgs :=
  ⟨src, tgt, false, ociClient, .registryDefaults, none, args.annotations⟩

/-- The registry calls a replication with `args` can make, its sub-replications' included; a blob
loop copies only blobs the target lacks. -/
inductive Issued (env : Registry) : ReplicateArgs → Call → Prop
  | manifestRaw (args : ReplicateArgs) :
      Issued env args (.manifestRaw (selectedClient args) args.src args.mode.acceptHeader)
  | manifest (args : ReplicateArgs) : Issued env args (.manifest (selectedClient args) args.src)
  | toDigestHash (args : ReplicateArgs) :
      Issued env args (.toDigestHash (selectedClient args) args.src)
  | fromSingleImage (args : ReplicateArgs) (ref : OciImageReference) :
      Issued env args (.fromSingleImage args.ociClient ref)
  | headBlob (args : ReplicateArgs) (d : Digest) :
      Issued env args (.headBlob (selectedClient args) args.tgt d)
  | blob (args : ReplicateArgs) (d : Digest) :
      Issued env args (.blob (selectedClient args) args.src d)
  | copyBlob (args : ReplicateArgs) (d : Digest) (size : Nat) :
      env.headBlob args.tgt d = false →
      Issued env args (.putBlob (selectedClient args) args.tgt d size)
  | synthesisedConfig (args : ReplicateArgs) (v : String) (u : Option (List Digest)) :
      Issued env args (.putBlob (selectedClient args) args.tgt
        (digestOf env (env.synthesiseCfg v u)) (env.synthesiseCfg v u).utf8ByteSize)
  | putManifest (args : ReplicateArgs) (ref : OciImageReference) (manifest : String) :
      Issued env args (.putManifest (selectedClient args) ref manifest)
  | listEntry {args : ReplicateArgs} {src tgt : OciImageReference} {c : Call} :
      Issued env (subArgs args (some (selectedClient args)) src tgt) c → Issued env args c
  | normalisedImage {args : ReplicateArgs} {src tgt : OciImageReference} {c : Call} :
      Issued env (subArgs args args.ociClient src tgt) c → Issued env args c

section Issued

variable (env : Registry) (args : ReplicateArgs)

theorem blobLoop_issued (nu : Bool) :
    ∀ (idx : Nat) (layers : List OciBlobRef) (needSynth : Bool) (u : Option (List Digest)),
      (idx = 0 → nu = true → needSynth = true) →
      Emits (Issued env args)
        (blobLoop env (selectedClient args) args.src args.tgt nu idx layers (needSynth, u))
  | _, [], _, _, _ => Emits.pure _
  | idx, l :: layers, needSynth, u, hinv => by
    have ih : ∀ ns u', Emits (Issued env args) (blobLoop env (selectedClient args) args.src
        args.tgt nu (idx + 1) layers (ns, u')) :=
      fun ns u' => blobLoop_issued nu (idx + 1) layers ns u' (by omega)
    rw [blobLoop]
    split_ifs with hskip h1 h2
    · exact ih _ _
    · exact Emits.emit_bind (.headBlob args _) (ih _ _)
    · exact Emits.emit_bind (.headBlob args _) (Emits.emit_bind (.blob args _) (ih _ _))
    · exact Emits.emit_bind (.headBlob args _) (Emits.emit_bind (.blob args _) (Emits.raise _))
    · exact Emits.emit_bind (.headBlob args _) (Emits.emit_bind (.blob args _) (ih _ _))
    · exact Emits.emit_bind (.headBlob args _) (Emits.emit_bind (.blob args _) (Emits.raise _))
    all_goals
      have hhead : env.headBlob args.tgt l.digest = false := by
        by_contra hh
        rw [Bool.not_eq_false] at hh
        have hidx : idx = 0 := by simpa [hh] using h2
        have hnu : nu = true := by simpa [hh] using h1
        simp [hidx, hinv hidx hnu] at hskip
      exact Emits.emit_bind (.headBlob args _) (Emits.emit_bind (.blob args _)
        (Emits.emit_bind (.copyBlob args _ _ hhead) (ih _ _)))

theorem synthesiseCfgBlob_issued (raw : String) (m : OciImageManifest)
    (u : Option (List Digest)) :
    Emits (Issued env args) (synthesiseCfgBlob env (selectedClient args) args.tgt raw m u) := by
  refine Emits.bind (Emits.liftExcept _) fun json _ => ?_
  split
  · exact Emits.raise _
  · exact Emits.emit_bind (.synthesisedConfig args _ _) (Emits.pure _)

theorem putFinalManifest_issued (raw : String) :
    Emits (Issued env args) (putFinalManifest env (selectedClient args) args.tgt raw) :=
  Emits.emit_bind (.putManifest args _ _) (Emits.pure _)

theorem replicateImage_issued (m : OciImageManifest) (raw : String) (needSynth : Bool)
    (u : Option (List Digest)) (hsynth : u.isSome = true → needSynth = true) :
    Emits (Issued env args) (replicateImage env (selectedClient args) args m raw needSynth u) := by
  refine Emits.bind (blobLoop_issued env args _ 0 _ _ _ fun _ => hsynth) fun ⟨ns, u'⟩ _ => ?_
  refine Emits.bind ?_ fun _ _ => putFinalManifest_issued env args _
  split
  · exact synthesiseCfgBlob_issued env args _ _ _
  · exact Emits.pure _

theorem requireClient_emits {P : Call → Prop} (client : Option Client) (method : String) :
    Emits P (requireClient client method) := by
  unfold requireClient
  split
  · exact Emits.pure _
  · exact Emits.raise _

theorem selectedClient_of_requireClient {method : String} {c : Client}
    (h : (requireClient args.ociClient method).result = .ok c) : c = selectedClient args := by
  unfold requireClient at h
  split at h
  · rename_i c' hc
    cases h
    simp [selectedClient, hc]
  · cases h

section Recursion

variable (replicate : OciImageReference → OciImageReference → Trace Call Replicated)
  (hrep : ∀ src tgt, Emits (Issued env args) (replicate src tgt))

include hrep

theorem subManifestLoop_issued (srcName tgtName : String) :
    ∀ (idx : Nat) (subs : List OciImageManifestListEntry)
      (state : List OciImageManifestListEntry × Bool),
      Emits (Issued env args) (subManifestLoop env args replicate srcName tgtName idx subs state)
  | _, [], _ => Emits.pure _
  | idx, sub :: subs, (manifests, dirty) => by
    have ih := subManifestLoop_issued srcName tgtName (idx + 1) subs
    rw [subManifestLoop]
    refine Emits.bind ?_ fun keep _ => ?_
    · split
      · exact Emits.pure _
      · exact Emits.emit_bind (.fromSingleImage args _)
          (Emits.bind (Emits.liftExcept _) fun _ _ => Emits.pure _)
    · split_ifs
      · exact Emits.bind (Emits.liftExcept _) fun _ _ => ih _
      · refine Emits.bind (hrep _ _) fun _ _ => ?_
        dsimp only
        split_ifs
        · exact Emits.bind (Emits.liftExcept _) fun _ _ => ih _
        · exact ih _

theorem replicateManifestList_issued (json : ManifestJson) (mediaType raw : String) :
    Emits (Issued env args)
      (replicateManifestList env (selectedClient args) args replicate json mediaType raw) :=
  Emits.bind (Emits.liftExcept _) fun _ _ =>
    Emits.bind (subManifestLoop_issued env args replicate hrep _ _ _ _ _) fun ⟨_, _⟩ _ =>
      putFinalManifest_issued env args _

theorem normaliseToMultiarch_issued (mediaType : String) :
    Emits (Issued env args) (normaliseToMultiarch env args replicate mediaType) := by
  refine Emits.bind ?_ fun _ _ => Emits.emit_bind (.fromSingleImage args _)
    (Emits.bind (Emits.liftExcept _) fun _ _ => Emits.bind (hrep _ _) fun _ _ =>
      Emits.bind (requireClient_emits _ _) fun c hc => ?_)
  · split
    · exact Emits.pure _
    · refine Emits.bind (requireClient_emits _ _) fun c hc => ?_
      rw [selectedClient_of_requireClient args hc]
      exact Emits.emit_bind (.toDigestHash args) (Emits.bind (Emits.liftExcept _) fun _ _ =>
        Emits.pure _)
  · rw [selectedClient_of_requireClient args hc]
    exact Emits.emit_bind (.putManifest args _ _) (Emits.pure _)

end Recursion

end Issued

theorem replicateArtifact_issued (env : Registry) :
    ∀ fuel args, Emits (Issued env args) (replicateArtifact env fuel args)
  | 0, _ => Emits.outOfFuel
  | fuel + 1, args => by
    have hlist : ∀ src tgt, Emits (Issued env args)
        (replicateArtifact env fuel (subArgs args (some (selectedClient args)) src tgt)) :=
      fun src tgt => (replicateArtifact_issued env fuel _).mono fun _ h => .listEntry h
    have hnorm : ∀ src tgt, Emits (Issued env args)
        (replicateArtifact env fuel (subArgs args args.ociClient src tgt)) :=
      fun src tgt => (replicateArtifact_issued env fuel _).mono fun _ h => .normalisedImage h
    rw [replicateArtifact]
    by_cases hxor : args.credentialsLookup = args.ociClient.isSome
    · rw [if_pos hxor]
      exact Emits.raise _
    rw [if_neg hxor]
    refine Emits.emit_bind (.manifestRaw args) (Emits.bind (Emits.liftExcept _) fun resp _ =>
      Emits.bind (Emits.liftExcept _) fun json _ => ?_)
    dsimp only
    split_ifs
    · exact Emits.emit_bind (.manifest args) (Emits.bind (Emits.liftExcept _) fun _ _ =>
        Emits.bind (Emits.liftExcept _) fun m _ =>
          replicateImage_issued env args m _ true _ fun _ => rfl)
    · exact replicateManifestList_issued env args _ hlist _ _ _
    · exact normaliseToMultiarch_issued env args _ hnorm _
    · exact Emits.bind (Emits.liftExcept _) fun m _ =>
        replicateImage_issued env args m _ false none nofun
    · exact Emits.raise _
    · exact Emits.raise _

theorem putBlob_of_issued (env : Registry) {args : ReplicateArgs} {c : Call}
    (h : Issued env args c) :
    ∀ {client ref d size}, c = .putBlob client ref d size →
      env.headBlob ref d = false ∨
        ∃ v u, d = digestOf env (env.synthesiseCfg v u) ∧
          size = (env.synthesiseCfg v u).utf8ByteSize := by
  induction h with
  | copyBlob args d size hd => rintro _ _ _ _ ⟨⟩; exact .inl hd
  | synthesisedConfig args v u => rintro _ _ _ _ ⟨⟩; exact .inr ⟨v, u, rfl, rfl⟩
  | listEntry _ ih => exact ih
  | normalisedImage _ ih => exact ih
  | _ => rintro _ _ _ _ ⟨⟩

theorem replicate_reuploads_synthesised_config (env : Registry) (fuel : Nat)
    (args : ReplicateArgs) (hheld : ∀ ref d, env.headBlob ref d = true) :
    (∀ client ref d size, .putBlob client ref d size ∈ (replicateArtifact env fuel args).calls →
      ∃ v u, d = digestOf env (env.synthesiseCfg v u) ∧
        size = (env.synthesiseCfg v u).utf8ByteSize) ∧
    ∀ resp json m v, args.credentialsLookup ≠ args.ociClient.isSome →
      env.manifestRaw args.src args.mode.acceptHeader = .ok resp →
      env.loads resp.text = .ok json → json.schemaVersion = 1 →
      env.manifest args.src = .ok () → env.v1ManifestToV2 args.src = .ok m →
      (∀ l ∈ m.layers, env.blobExists args.src l.digest = true) →
      json.v1Compatibility = some v →
      .putBlob (args.ociClient.getD .created) args.tgt (digestOf env (synthesisedConfig env v m))
        (synthesisedConfig env v m).utf8ByteSize ∈ (replicateArtifact env (fuel + 1) args).calls := by
  refine ⟨fun client ref d size hmem => ?_,
    fun resp json m v hxor hraw hloads hv hmf hconv hlayers hcompat => ?_⟩
  · rcases putBlob_of_issued env (replicateArtifact_issued env fuel args _ hmem) rfl with h | h
    · rw [hheld] at h
      cases h
    · exact h
  · rw [replicateArtifact_schema1 env hxor hraw hloads hv hmf hconv, emit_bind, emit_bind]
    exact List.mem_cons_of_mem _ (List.mem_cons_of_mem _
      (replicateImage_synthesised env _ args m resp.text _ hlayers hloads hcompat rfl).1)

def replicatedLegacyRegistry : Registry := { legacyRegistry with headBlob := fun _ _ => true }

theorem legacy_config_uploaded_again :
    Call.putBlob (.passed 0) annotatedArgs.tgt "sha256:cfg" 3 ∈
      (replicateArtifact replicatedLegacyRegistry 1 annotatedArgs).calls :=
  (replicate_reuploads_synthesised_config replicatedLegacyRegistry 0 annotatedArgs
    fun _ _ => rfl).2 ⟨"legacy", none⟩ _ convertedManifest "v1" nofun rfl rfl rfl rfl rfl
    (fun _ _ => rfl) rfl

def callClient : Call → Option Client
  | .manifestRaw c _ _ | .manifest c _ | .toDigestHash c _ | .headBlob c _ _ | .blob c _ _
  | .putBlob c _ _ _ | .putManifest c _ _ => some c
  | .fromSingleImage c _ => c

theorem callClient_of_issued (env : Registry) {args : ReplicateArgs} {c : Call}
    (h : Issued env args c) :
    callClient c = some (selectedClient args) ∨ (args.ociClient = none ∧ callClient c = none) := by
  induction h with
  | fromSingleImage args ref =>
    cases hc : args.ociClient
    · exact .inr ⟨rfl, by simp [callClient, hc]⟩
    · exact .inl (by simp [callClient, selectedClient, hc])
  | listEntry _ ih =>
    rcases ih with h | ⟨h, -⟩
    · exact .inl h
    · cases h
  | normalisedImage _ ih => exact ih
  | _ => exact .inl rfl

theorem replicateArtifact_rejects_xor (env : Registry) {fuel : Nat} {args : ReplicateArgs}
    (h : args.credentialsLookup = args.ociClient.isSome) {r : Replicated} :
    (replicateArtifact env fuel args).result ≠ .ok r := by
  cases fuel <;> simp [replicateArtifact, h, outOfFuel, raise]

theorem normaliseToMultiarch_absent_client (env : Registry) (args : ReplicateArgs)
    (hnone : args.ociClient = none) (fuel : Nat) (mediaType : String) (r : Replicated) :
    (normaliseToMultiarch env args (fun src tgt =>
      replicateArtifact env fuel (subArgs args args.ociClient src tgt)) mediaType).result ≠
        .ok r := by
  intro h
  unfold normaliseToMultiarch at h
  obtain ⟨_, -, h⟩ := bind_result_ok.mp h
  rw [emit_bind] at h
  obtain ⟨_, -, h⟩ := bind_result_ok.mp h
  obtain ⟨_, hr, -⟩ := bind_result_ok.mp h
  exact replicateArtifact_rejects_xor env (by simp [subArgs, hnone]) hr

theorem replicate_passes_absent_client (env : Registry) (fuel : Nat) (args : ReplicateArgs) :
    (∀ c ∈ (replicateArtifact env fuel args).calls,
      callClient c = some (args.ociClient.getD .created) ∨
        (args.ociClient = none ∧ callClient c = none)) ∧
    (args.credentialsLookup = true → args.ociClient = none → args.mode = .normaliseToMultiarch →
      SingleImageSource env args → ∀ r, (replicateArtifact env fuel args).result ≠ .ok r) := by
  refine ⟨fun c hc => callClient_of_issued env (replicateArtifact_issued env fuel args c hc),
    fun hcred hnone hmode hsrc r => ?_⟩
  obtain ⟨resp, json, hraw, hloads, hv, hmt⟩ := hsrc
  cases fuel with
  | zero => simp [replicateArtifact, outOfFuel]
  | succ fuel =>
    have hxor : args.credentialsLookup ≠ args.ociClient.isSome := by simp [hcred, hnone]
    rw [replicateArtifact_normalise env hxor hmode hraw hloads hv hmt, emit_bind]
    exact normaliseToMultiarch_absent_client env args hnone fuel _ r

def credentialsNormaliseArgs : ReplicateArgs :=
  ⟨⟨"src/repo", some (.symbolic "1.0")⟩, ⟨"tgt/repo", none⟩, true, none, .normaliseToMultiarch,
    none, []⟩

theorem credentials_normalise_never_completes :
    ∀ r, (replicateArtifact singleImageRegistry 3 credentialsNormaliseArgs).result ≠ .ok r :=
  (replicate_passes_absent_client singleImageRegistry 3 credentialsNormaliseArgs).2 rfl rfl rfl
    ⟨_, _, rfl, rfl, rfl, .inl rfl⟩

end CcUtils.Oci.ReplicateCalls
