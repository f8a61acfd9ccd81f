import CcUtils.Cnudie.Retrieve

namespace CcUtils.Cnudie.CacheCoherence

open CcUtils.Python.Exceptions CcUtils.Python.Effects CcUtils.Python.Effects.Trace
  CcUtils.Cnudie.Retrieve CcUtils.Python

section Model

variable (lower : String → String)

def serviceLookup (mapping : Option MappingConfig) (id : ComponentIdentity)
    (ctx : Option OciRepositoryContext) : Layer → Trace Call LookupResult
  | .deliveryService client => deliveryLookup mapping id client ctx
  | .ociRegistry registry => ociLookup lower mapping id registry ctx
  | .inMemory | .fileSystem _ => pure .none

def servicesLookup (mapping : Option MappingConfig) (id : ComponentIdentity)
    (ctx : Option OciRepositoryContext) : List Layer → Trace Call (Option ComponentDescriptor)
  | [] => pure none
  | layer :: layers =>
    (serviceLookup lower mapping id ctx layer).tryExcept ociImageNotFound .none >>= fun
      | .descriptor d => pure (some d)
      | _ => servicesLookup mapping id ctx layers

def plainLookup (services : List Layer) (id : ComponentIdentity) (r : OciRepositoryContext)
    (absentOk : Bool) : Trace Call (Option ComponentDescriptor) :=
  servicesLookup lower none id (some r) services >>= fun
    | some d => pure (some d)
    | none => if absentOk then pure none else raise ⟨ociImageNotFound, componentVersionOciRef lower r id⟩

def Found (services : List Layer) (id : ComponentIdentity) (r : OciRepositoryContext)
    (d : ComponentDescriptor) : Prop :=
  (servicesLookup lower none id (some r) services).result = .ok (some d)

structure Request where
  id : ComponentIdentity
  repo : OciRepositoryContext
  absentOk : Bool
  deriving DecidableEq

/-- The caches hold only what the services answer: each memory entry holds what the services
find for its key, and the file at a request's path what they find for the request. -/
structure Coherent (cacheDir : String) (services : List Layer) (reqs : List Request)
    (s : CacheState) : Prop where
  memory : ∀ id r d, ((id, r), d) ∈ s.memory.entries → Found lower services id r d
  files : ∀ req ∈ reqs, ∀ d, s.files (descriptorPath cacheDir req.repo req.id) = some d →
    Found lower services req.id req.repo d

/-- What the requests of a run must meet for the caches to be transparent: a descriptor the
services find for a request names the request's repository, and two requests whose paths are
one cache file ask for one key. -/
structure RequestsAgree (cacheDir : String) (services : List Layer) (reqs : List Request) :
    Prop where
  located : ∀ req ∈ reqs, ∀ d, Found lower services req.id req.repo d →
    d.currentRepositoryCtx = some req.repo
  distinct_paths : ∀ req ∈ reqs, ∀ req' ∈ reqs,
    descriptorPath cacheDir req.repo req.id = descriptorPath cacheDir req'.repo req'.id →
    req.id = req'.id ∧ req.repo = req'.repo

def lookupRun (l : DefaultLookup) :
    CacheState → List Request → List (Trace Call (Option ComponentDescriptor)) × CacheState
  | s, [] => ([], s)
  | s, req :: reqs =>
    let out := l.lookup lower s req.id (some req.repo) req.absentOk
    let rest := lookupRun l out.2 reqs
    (out.1 :: rest.1, rest.2)

end Model

section Services

variable {lower : String → String} {mapping : Option MappingConfig} {id : ComponentIdentity}
  {ctx : Option OciRepositoryContext} {layer : Layer}

theorem bind_pure_pair {α β : Type} (x : Trace Call α) (b : β) :
    (x >>= fun a => pure (a, b)) = ⟨x.calls, x.result.map (·, b)⟩ := by
  cases h : x.result with
  | ok a => rw [bind_of_ok h]; simp [h, Except.map]
  | error e => rw [bind_of_error h]; simp [h, Except.map]

variable (lower) in
theorem layerLookup_of_service (mapping : Option MappingConfig) (id : ComponentIdentity)
    (ctx : Option OciRepositoryContext) (hl : layer.isCache = false) (s : CacheState) :
    (layerLookup lower mapping id s ctx layer).tryExcept ociImageNotFound (.none, s) =
      ((serviceLookup lower mapping id ctx layer).tryExcept ociImageNotFound .none).mapResult (·, s) := by
  have h : layerLookup lower mapping id s ctx layer =
      serviceLookup lower mapping id ctx layer >>= fun a => pure (a, s) := by
    cases layer <;> first | rfl | cases hl
  rw [h, bind_pure_pair]
  exact tryExcept_mapResult (·, s) _ _ _

theorem serviceLookup_result {r : LookupResult}
    (h : ((serviceLookup lower mapping id ctx layer).tryExcept ociImageNotFound .none).result = .ok r) :
    r = .none ∨ ∃ d, r = .descriptor d := by
  rcases tryExcept_result_ok h with h | rfl
  · cases layer with
    | inMemory | fileSystem _ => exact .inl (Except.ok.inj h).symm
    | deliveryService client | ociRegistry registry =>
      obtain ⟨_, -, hfirst⟩ := bind_result_ok.mp h
      exact firstFound_result hfirst
  · exact .inl rfl

theorem compositeLoop_services_found {d : ComponentDescriptor} :
    ∀ {layers : List Layer} (wbs : List Layer) (s : CacheState),
      (∀ l ∈ layers, l.isCache = false) →
      (servicesLookup lower mapping id ctx layers).result = .ok (some d) →
      compositeLoop lower mapping id ctx layers wbs s =
        (⟨(servicesLookup lower mapping id ctx layers).calls,
          (applyWritebacks id d wbs s).2.elim (.ok (some d)) fun e => .error (.raised e)⟩,
          (applyWritebacks id d wbs s).1)
  | [], _, _, _, h => by cases h
  | layer :: layers, wbs, s, hs, h => by
    have hstep := layerLookup_of_service lower mapping id ctx (hs layer (List.mem_cons_self _ _)) s
    cases hv : ((serviceLookup lower mapping id ctx layer).tryExcept ociImageNotFound .none).result with
    | error x =>
      rw [servicesLookup, bind_of_error hv] at h
      cases h
    | ok v =>
      rw [servicesLookup, bind_of_ok hv] at h ⊢
      rcases serviceLookup_result hv with rfl | ⟨d', rfl⟩
      · simp only [compositeLoop, hstep, mapResult, hv, Except.map]
        rw [compositeLoop_services_found wbs s (fun l hl => hs l (List.mem_cons_of_mem _ hl)) h]
      · cases h
        simp only [compositeLoop, hstep, mapResult, hv, Except.map]
        cases applyWritebacks id d wbs s with
        | mk s' e => cases e <;> simp

theorem compositeLoop_services_not_found :
    ∀ {layers : List Layer} (wbs : List Layer) (s : CacheState),
      (∀ l ∈ layers, l.isCache = false) →
      (∀ d, (servicesLookup lower mapping id ctx layers).result ≠ .ok (some d)) →
      compositeLoop lower mapping id ctx layers wbs s = (servicesLookup lower mapping id ctx layers, s)
  | [], _, _, _, _ => rfl
  | layer :: layers, wbs, s, hs, h => by
    have hstep := layerLookup_of_service lower mapping id ctx (hs layer (List.mem_cons_self _ _)) s
    cases hv : ((serviceLookup lower mapping id ctx layer).tryExcept ociImageNotFound .none).result with
    | error x =>
      rw [servicesLookup, bind_of_error hv]
      simp only [compositeLoop, hstep, mapResult, hv, Except.map]
    | ok v =>
      rw [servicesLookup, bind_of_ok hv] at h ⊢
      rcases serviceLookup_result hv with rfl | ⟨d', rfl⟩
      · simp only [compositeLoop, hstep, mapResult, hv, Except.map]
        rw [compositeLoop_services_not_found wbs s (fun l hl => hs l (List.mem_cons_of_mem _ hl)) h]
      · exact absurd rfl (h d')

end Services

section Coherent

variable {lower : String → String} {cacheDir : String} {services : List Layer}
  {reqs : List Request} {s : CacheState} {id : ComponentIdentity} {r : OciRepositoryContext}
  {d : ComponentDescriptor}

theorem coherent_fresh (lower : String → String) (cacheDir : String) (services : List Layer)
    (reqs : List Request) (dirs : List String) :
    Coherent lower cacheDir services reqs ⟨freshMemory, fun _ => none, dirs⟩ :=
  ⟨fun _ _ _ h => by simp [freshMemory, LruCache.empty] at h, fun _ _ _ h => by cases h⟩

theorem Coherent.get (hcoh : Coherent lower cacheDir services reqs s)
    (k : ComponentIdentity × OciRepositoryContext) :
    Coherent lower cacheDir services reqs { s with memory := (s.memory.get k).2 } :=
  ⟨fun id r d h => hcoh.memory id r d (LruCache.mem_get_entries h), hcoh.files⟩

theorem Coherent.set (hcoh : Coherent lower cacheDir services reqs s)
    (hd : Found lower services id r d) :
    Coherent lower cacheDir services reqs { s with memory := s.memory.set (id, r) d } := by
  refine ⟨fun id' r' d' h => ?_, hcoh.files⟩
  rcases LruCache.mem_set_entries h with he | he
  · cases he
    exact hd
  · exact hcoh.memory id' r' d' he

theorem Coherent.write (hcoh : Coherent lower cacheDir services reqs s)
    (hpaths : ∀ req ∈ reqs, descriptorPath cacheDir req.repo req.id = descriptorPath cacheDir r id →
      req.id = id ∧ req.repo = r)
    (hd : Found lower services id r d) : Coherent lower cacheDir services reqs
      { s with files := fun p => if p = descriptorPath cacheDir r id then some d else s.files p } := by
  refine ⟨hcoh.memory, fun req hreq d' h => ?_⟩
  dsimp only at h
  split at h
  · cases h
    obtain ⟨rfl, rfl⟩ := hpaths req hreq (by assumption)
    exact hd
  · exact hcoh.files req hreq d' h

theorem plainLookup_of_found (hd : Found lower services id r d) (absentOk : Bool) :
    plainLookup lower services id r absentOk =
      ⟨(servicesLookup lower none id (some r) services).calls, .ok (some d)⟩ := by
  rw [plainLookup, bind_of_ok hd]
  simp

end Coherent

section Lookup

variable {lower : String → String} {cacheDir : String} {services : List Layer}
  {reqs : List Request} {s : CacheState}

theorem lookup_step (hs : ∀ l ∈ services, l.isCache = false) {req : Request} (hreq : req ∈ reqs)
    (hloc : ∀ d, Found lower services req.id req.repo d → d.currentRepositoryCtx = some req.repo)
    (hpaths : ∀ req' ∈ reqs, descriptorPath cacheDir req'.repo req'.id =
      descriptorPath cacheDir req.repo req.id → req'.id = req.id ∧ req'.repo = req.repo)
    (hcoh : Coherent lower cacheDir services reqs s) :
    ((compositeLookup lower none req.id (.inMemory :: .fileSystem cacheDir :: services)
        req.absentOk s (some req.repo)).1 = plainLookup lower services req.id req.repo req.absentOk ∨
      (compositeLookup lower none req.id (.inMemory :: .fileSystem cacheDir :: services)
        req.absentOk s (some req.repo)).1 =
          ⟨[], (plainLookup lower services req.id req.repo req.absentOk).result⟩) ∧
    Coherent lower cacheDir services reqs (compositeLookup lower none req.id
      (.inMemory :: .fileSystem cacheDir :: services) req.absentOk s (some req.repo)).2 := by
  obtain ⟨id, r, absentOk⟩ := req
  dsimp only at hloc hpaths ⊢
  have hc : candidates none id.name (some r) = .ok [r] := rfl
  have hp : fileSystemPath none id (some r) = .ok (some r) := rfl
  rw [compositeLookup_state]
  rcases hget : s.memory.get (id, r) with ⟨_ | d, memory⟩
  · obtain ⟨rfl, hmiss⟩ := LruCache.get_of_miss hget
    have hmiss' : ∀ r' ∈ [r], ∀ e ∈ s.memory.entries, e.1 ≠ (id, r') := by simpa using hmiss
    have h1 := layerLookup_inMemory_miss lower hc hmiss'
    cases hf : s.files (descriptorPath cacheDir r id) with
    | some d =>
      -- the file holds the descriptor
      have hd := hcoh.files _ hreq d hf
      have h2 := layerLookup_fileSystem_hit lower hp hf
      have hloop : compositeLoop lower none id (some r) (.inMemory :: .fileSystem cacheDir :: services) [] s =
          (⟨[], .ok (some d)⟩, { s with memory := s.memory.set (id, r) d }) := by
        rw [compositeLoop_writeBack (by rw [h1]; rfl), List.nil_append,
          compositeLoop_descriptor (by rw [h2]; rfl) (applyWritebacks_memory (hloc d hd)), h1, h2]
        rfl
      rw [compositeLookup_of_found (congrArg Prod.fst hloop), hloop, plainLookup_of_found hd]
      exact ⟨.inr rfl, hcoh.set hd⟩
    | none =>
      rw [compositeLoop_caches_miss s hc hp hmiss' hf]
      by_cases hfound : ∃ d, Found lower services id r d
      · -- the services find it: both caches take it
        obtain ⟨d, hd⟩ := hfound
        have hloop := compositeLoop_services_found [.inMemory, .fileSystem cacheDir]
          { s with dirs := Str.dirname (descriptorPath cacheDir r id) :: s.dirs } hs hd
        rw [applyWritebacks_caches (hloc d hd)] at hloop
        dsimp only at hloop
        rw [if_pos (List.mem_cons_self _ _)] at hloop
        rw [compositeLookup_of_found (by rw [compositeLoop_caches_miss s hc hp hmiss' hf, hloop]; rfl),
          hloop, plainLookup_of_found hd]
        have hcoh' := (hcoh.set hd).write hpaths hd
        exact ⟨.inl rfl, hcoh'.memory, hcoh'.files⟩
      · -- the services find nothing: the caches stay as they are
        push_neg at hfound
        have hloop := compositeLoop_services_not_found [.inMemory, .fileSystem cacheDir]
          { s with dirs := Str.dirname (descriptorPath cacheDir r id) :: s.dirs } hs hfound
        rw [hloop]
        refine ⟨.inl ?_, ⟨hcoh.memory, hcoh.files⟩⟩
        simp only [compositeLookup, compositeLoop_caches_miss s hc hp hmiss' hf, hloop]
        rfl
  · -- the memory holds the descriptor
    have hd := hcoh.memory id r d (LruCache.mem_of_get hget)
    have h1 := layerLookup_inMemory_hit lower hc hget
    have hloop : compositeLoop lower none id (some r) (.inMemory :: .fileSystem cacheDir :: services) [] s =
        (⟨[], .ok (some d)⟩, { s with memory }) := by
      rw [compositeLoop_descriptor (by rw [h1]; rfl) rfl, h1]
      rfl
    rw [compositeLookup_of_found (congrArg Prod.fst hloop), hloop, plainLookup_of_found hd]
    have hmem : memory = (s.memory.get (id, r)).2 := by rw [hget]
    exact ⟨.inr rfl, hmem ▸ hcoh.get (id, r)⟩

theorem lookupRun_coherent {l : DefaultLookup} (hmap : l.mapping = none)
    (hlayers : l.layers = .inMemory :: .fileSystem cacheDir :: services)
    (hs : ∀ l ∈ services, l.isCache = false) (hagree : RequestsAgree lower cacheDir services reqs) :
    ∀ (run : List Request) (s : CacheState), (∀ req ∈ run, req ∈ reqs) →
      Coherent lower cacheDir services reqs s →
      List.Forall₂ (fun req t => t = plainLookup lower services req.id req.repo req.absentOk ∨
          t = ⟨[], (plainLookup lower services req.id req.repo req.absentOk).result⟩)
        run (lookupRun lower l s run).1 ∧
      Coherent lower cacheDir services reqs (lookupRun lower l s run).2
  | [], _, _, hcoh => ⟨.nil, hcoh⟩
  | req :: run, s, hrun, hcoh => by
    have hreq := hrun req (List.mem_cons_self _ _)
    obtain ⟨hstep, hcoh'⟩ := lookup_step hs hreq (hagree.located req hreq)
      (fun req' hreq' => hagree.distinct_paths req' hreq' req hreq) hcoh
    obtain ⟨hrest, hcoh''⟩ := lookupRun_coherent hmap hlayers hs hagree run _ (fun req' h => hrun req' (List.mem_cons_of_mem _ h)) hcoh'
    simp only [lookupRun, DefaultLookup.lookup, hmap, hlayers] at hrest hcoh'' ⊢
    exact ⟨.cons hstep hrest, hcoh''⟩

end Lookup

theorem default_lookup_caches_transparent (lower : String → String) {services : Services}
    {cfg : Option CtxConfig} {cacheDir : String} {defaultAbsentOk : Bool} {l : DefaultLookup}
    (hl : createDefaultComponentDescriptorLookup services cfg none (some cacheDir) none
      defaultAbsentOk none = .ok l)
    (hdir : cacheDir ≠ "") (reqs : List Request)
    (hagree : RequestsAgree lower cacheDir (l.layers.drop 2) reqs) (s : CacheState)
    (hcoh : Coherent lower cacheDir (l.layers.drop 2) reqs s) :
    List.Forall₂ (fun req t => t = plainLookup lower (l.layers.drop 2) req.id req.repo req.absentOk ∨
        t = ⟨[], (plainLookup lower (l.layers.drop 2) req.id req.repo req.absentOk).result⟩)
      reqs (lookupRun lower l s reqs).1 ∧
    Coherent lower cacheDir (l.layers.drop 2) reqs (lookupRun lower l s reqs).2 := by
  obtain ⟨hmap, rest, hlayers, hs⟩ := createDefault_cache_layers hl hdir
  rw [hlayers, List.drop_succ_cons, List.drop_succ_cons, List.drop_zero] at hagree hcoh ⊢
  exact lookupRun_coherent hmap hlayers hs hagree reqs s (fun _ h => h) hcoh

def registryInTwo : Registry := fun ref =>
  if ref = "two/component-descriptors/example.org/component:1.0.0" then some ⟨mappedId, some repoTwo⟩
  else none

def registryLookup : DefaultLookup :=
  ⟨none, [.inMemory, .fileSystem "cache", .ociRegistry registryInTwo], none, true⟩

def twoThenOne : List Request := [⟨mappedId, repoTwo, false⟩, ⟨mappedId, repoTwo, false⟩, ⟨mappedId, repoOne, true⟩]

theorem registry_lookup_transparent :
    createDefaultComponentDescriptorLookup ⟨none, registryInTwo⟩ (some ⟨none, none⟩) none
      (some "cache") none true none = .ok registryLookup ∧
    RequestsAgree Str.asciiLower "cache" (registryLookup.layers.drop 2) twoThenOne ∧
    List.Forall₂ (fun (req : Request) t =>
        t = plainLookup Str.asciiLower (registryLookup.layers.drop 2) req.id req.repo req.absentOk ∨
        t = ⟨[], (plainLookup Str.asciiLower (registryLookup.layers.drop 2) req.id req.repo req.absentOk).result⟩)
      twoThenOne (lookupRun Str.asciiLower registryLookup ⟨freshMemory, fun _ => none, []⟩ twoThenOne).1 ∧
    Coherent Str.asciiLower "cache" (registryLookup.layers.drop 2) twoThenOne
      (lookupRun Str.asciiLower registryLookup ⟨freshMemory, fun _ => none, []⟩ twoThenOne).2 := by
  have hl : createDefaultComponentDescriptorLookup ⟨none, registryInTwo⟩ (some ⟨none, none⟩) none
      (some "cache") none true none = .ok registryLookup := rfl
  have htwo : ∀ d, Found Str.asciiLower (registryLookup.layers.drop 2) mappedId repoTwo d →
      d = ⟨mappedId, some repoTwo⟩ := fun d h => by
    have hr : (servicesLookup Str.asciiLower none mappedId (some repoTwo) (registryLookup.layers.drop 2)).result =
      .ok (some ⟨mappedId, some repoTwo⟩) := rfl
    rw [Found, hr] at h
    exact (Option.some.inj (Except.ok.inj h)).symm
  have hone : ∀ d, ¬ Found Str.asciiLower (registryLookup.layers.drop 2) mappedId repoOne d := fun d h => by
    have hr : (servicesLookup Str.asciiLower none mappedId (some repoOne) (registryLookup.layers.drop 2)).result =
      .ok none := rfl
    rw [Found, hr] at h
    cases h
  have hagree : RequestsAgree Str.asciiLower "cache" (registryLookup.layers.drop 2) twoThenOne := by
    refine ⟨fun req hreq d hd => ?_, by decide⟩
    simp only [twoThenOne, List.mem_cons, List.mem_singleton, List.not_mem_nil, or_false] at hreq
    rcases hreq with rfl | rfl | rfl
    · rw [htwo d hd]
    · rw [htwo d hd]
    · exact (hone d hd).elim
  exact ⟨hl, hagree, default_lookup_caches_transparent Str.asciiLower hl (by decide) twoThenOne hagree _
    (coherent_fresh _ _ _ _ _)⟩

example : (lookupRun Str.asciiLower registryLookup ⟨freshMemory, fun _ => none, []⟩ twoThenOne).1.map
    Trace.calls = [[.ociManifest "two/component-descriptors/example.org/component:1.0.0"], [],
      [.ociManifest "one/component-descriptors/example.org/component:1.0.0"]] := by
  rfl

end CcUtils.Cnudie.CacheCoherence
