import CcUtils.Python.Effects
import CcUtils.Python.Str

namespace CcUtils.Cnudie.Retrieve

open CcUtils.Python CcUtils.Python.Exceptions CcUtils.Python.Effects CcUtils.Python.Effects.Trace

structure LruCache (κ ν : Type) where
  maxsize : Nat
  entries : List (κ × ν)
  keys_nodup : (entries.map Prod.fst).Nodup
  length_le : entries.length ≤ maxsize

namespace LruCache

variable {κ ν : Type} [DecidableEq κ]

def empty (maxsize : Nat) : LruCache κ ν := ⟨maxsize, [], List.nodup_nil, Nat.zero_le _⟩

theorem keys_nodup_cons {k : κ} {v : ν} {l : List (κ × ν)} (h : (l.map Prod.fst).Nodup) :
    (((k, v) :: l.filter (·.1 ≠ k)).map Prod.fst).Nodup := by
  rw [List.map_cons, List.nodup_cons]
  refine ⟨fun hk => ?_, (List.filter_sublist l).map Prod.fst |>.nodup h⟩
  obtain ⟨e, he, rfl⟩ := List.mem_map.mp hk
  simpa using (List.mem_filter.mp he).2

def set (c : LruCache κ ν) (k : κ) (v : ν) : LruCache κ ν where
  maxsize := c.maxsize
  entries := ((k, v) :: c.entries.filter (·.1 ≠ k)).take c.maxsize
  keys_nodup := ((List.take_sublist _ _).map Prod.fst).nodup (keys_nodup_cons c.keys_nodup)
  length_le := List.length_take_le _ _

theorem length_move_le {c : LruCache κ ν} {k : κ} {e : κ × ν}
    (h : c.entries.find? (·.1 = k) = some e) :
    ((k, e.2) :: c.entries.filter (·.1 ≠ k)).length ≤ c.maxsize := by
  have hk : e.1 = k := by simpa using List.find?_some h
  have hlt : (c.entries.filter (·.1 ≠ k)).length < c.entries.length :=
    List.length_filter_lt_length_iff_exists.mpr ⟨e, List.mem_of_find?_eq_some h, by simp [hk]⟩
  have := c.length_le
  simp only [List.length_cons]
  omega

def get (c : LruCache κ ν) (k : κ) : Option ν × LruCache κ ν :=
  match h : c.entries.find? (·.1 = k) with
  | some e =>
    (some e.2, ⟨c.maxsize, (k, e.2) :: c.entries.filter (·.1 ≠ k), keys_nodup_cons c.keys_nodup,
      length_move_le h⟩)
  | none => (none, c)

theorem get_set_self {c : LruCache κ ν} {k : κ} {v : ν} (h : 0 < c.maxsize) :
    ((c.set k v).get k).1 = some v := by
  obtain ⟨n, hn⟩ := Nat.exists_eq_succ_of_ne_zero h.ne'
  have hfind : (c.set k v).entries.find? (·.1 = k) = some (k, v) := by simp [set, hn]
  unfold get
  split
  · next e he => rw [hfind] at he; cases he; rfl
  · next he => rw [hfind] at he; cases he

theorem get_of_forall_ne {c : LruCache κ ν} {k : κ} (h : ∀ e ∈ c.entries, e.1 ≠ k) :
    c.get k = (none, c) := by
  have hnone : c.entries.find? (·.1 = k) = none :=
    List.find?_eq_none.mpr fun e he => by simpa using h e he
  unfold get
  split
  · next he => exact absurd (hnone ▸ he) (by simp)
  · rfl

theorem mem_of_get {c c' : LruCache κ ν} {k : κ} {v : ν} (h : c.get k = (some v, c')) :
    (k, v) ∈ c.entries := by
  unfold get at h
  split at h
  · next e he =>
    obtain rfl := Option.some.inj (Prod.mk.inj h).1
    have hk : e.1 = k := by simpa using List.find?_some he
    exact hk ▸ List.mem_of_find?_eq_some he
  · cases h

theorem get_of_miss {c c' : LruCache κ ν} {k : κ} (h : c.get k = (none, c')) :
    c' = c ∧ ∀ e ∈ c.entries, e.1 ≠ k := by
  unfold get at h
  split at h
  · cases h
  · next he =>
    refine ⟨(Prod.mk.inj h).2.symm, fun e hm hk => ?_⟩
    exact absurd (List.find?_eq_none.mp he e hm) (by simpa using hk)

theorem mem_get_entries {c : LruCache κ ν} {k : κ} {e : κ × ν} (h : e ∈ (c.get k).2.entries) :
    e ∈ c.entries := by
  unfold get at h
  split at h
  · next e' he =>
    rcases List.mem_cons.mp h with rfl | h
    · have hk : e'.1 = k := by simpa using List.find?_some he
      exact hk ▸ List.mem_of_find?_eq_some he
    · exact List.mem_of_mem_filter h
  · exact h

theorem mem_set_entries {c : LruCache κ ν} {k : κ} {v : ν} {e : κ × ν}
    (h : e ∈ (c.set k v).entries) : e = (k, v) ∨ e ∈ c.entries :=
  (List.mem_cons.mp (List.mem_of_mem_take h)).imp_right List.mem_of_mem_filter

end LruCache

structure ComponentIdentity where
  name : String
  version : String
  deriving DecidableEq, Repr

structure OciRepositoryContext where
  ociRef : String
  deriving DecidableEq, Repr

structure ComponentDescriptor where
  component : ComponentIdentity
  currentRepositoryCtx : Option OciRepositoryContext
  deriving DecidableEq, Repr

structure MappingConfig where
  iterOcmRepositories : String → List OciRepositoryContext

/-- `delivery_client.component_descriptor(name, version, ctx_repo_url)`: the descriptor, or
`none` when the call raises. -/
abbrev DeliveryClient := String → String → String → Option ComponentDescriptor

abbrev Registry := String → Option ComponentDescriptor

abbrev MemoryCache := LruCache (ComponentIdentity × OciRepositoryContext) ComponentDescriptor

/-- The state the cache layers keep: the in-memory cache of the process, and the files and
directories under the cache directory. -/
structure CacheState where
  memory : MemoryCache
  files : String → Option ComponentDescriptor
  dirs : List String

inductive Layer
  | inMemory
  | fileSystem (cacheDir : String)
  | deliveryService (client : DeliveryClient)
  | ociRegistry (registry : Registry)

def Layer.isCache : Layer → Bool
  | .inMemory | .fileSystem _ => true
  | .deliveryService _ | .ociRegistry _ => false

inductive LookupResult
  | descriptor (d : ComponentDescriptor)
  | none
  | writeBack (layer : Layer)

inductive Call
  | deliveryComponentDescriptor (name version ctxRepoUrl : String)
  | ociManifest (ref : String)
  deriving DecidableEq, Repr

def ociImageNotFound : ExcClass := .other "OciImageNotFoundException"

def noCtxRepo : PyExc := ⟨.valueError, "None"⟩

def descriptorPath (cacheDir : String) (ctx : OciRepositoryContext) (id : ComponentIdentity) :
    String :=
  Str.pathJoin (Str.pathJoin cacheDir (Str.replace ctx.ociRef '/' '-'))
    (id.name ++ "-" ++ id.version)

/-- `ctx_repo.component_version_oci_ref(component_id)`; `lower` is `str.lower`. -/
def componentVersionOciRef (lower : String → String) (ctx : OciRepositoryContext)
    (id : ComponentIdentity) : String :=
  ctx.ociRef ++ "/component-descriptors/" ++ lower id.name ++ ":" ++ id.version

section Layers

variable (lower : String → String) (mapping : Option MappingConfig) (id : ComponentIdentity)

def candidates (name : String) (ctx : Option OciRepositoryContext) :
    Except PyExc (List OciRepositoryContext) :=
  match mapping, ctx with
  | some m, _ => .ok (m.iterOcmRepositories name)
  | none, some ctx => .ok [ctx]
  | none, none => .error noCtxRepo

def inMemoryLookup (memory : MemoryCache) (ctx : Option OciRepositoryContext) :
    Except PyExc (LookupResult × MemoryCache) :=
  candidates mapping id.name ctx >>= fun ctxs => .ok (go memory ctxs)
where
  go (memory : MemoryCache) : List OciRepositoryContext → LookupResult × MemoryCache
    | [] => (.writeBack .inMemory, memory)
    | ctx :: ctxs =>
      match memory.get (id, ctx) with
      | (some d, memory) => (.descriptor d, memory)
      | (none, memory) => go memory ctxs

def inMemoryWriteback (memory : MemoryCache) (d : ComponentDescriptor) :
    Except PyExc MemoryCache :=
  match d.currentRepositoryCtx with
  | some ctx => .ok (memory.set (id, ctx) d)
  | none => .error noCtxRepo

def fileSystemPath (ctx : Option OciRepositoryContext) :
    Except PyExc (Option OciRepositoryContext) :=
  match mapping, ctx with
  | some m, _ => .ok (m.iterOcmRepositories id.name).head?
  | none, some ctx => .ok (some ctx)
  | none, none => .error noCtxRepo

def fileSystemLookup (cacheDir : String) (state : CacheState) (ctx : Option OciRepositoryContext) :
    Except PyExc (LookupResult × CacheState) :=
  fileSystemPath mapping id ctx >>= fun
    | some ctx =>
      match state.files (descriptorPath cacheDir ctx id) with
      | some d => .ok (.descriptor d, state)
      | none => .ok (.writeBack (.fileSystem cacheDir),
          { state with dirs := Str.dirname (descriptorPath cacheDir ctx id) :: state.dirs })
    | none => .error ⟨.notImplementedError, "No matching ocm repo found for \x27" ++ id.name ++
        "\x27 in given ocm-repo mappings"⟩

/-- The `WriteBack` of the file-system cache: the descriptor is written to the path of its own
repository context; the move fails when the directory of that path does not exist. -/
def fileSystemWriteback (cacheDir : String) (state : CacheState) (d : ComponentDescriptor) :
    Except PyExc CacheState :=
  match d.currentRepositoryCtx with
  | none => .error noCtxRepo
  | some ctx =>
    let path := descriptorPath cacheDir ctx id
    if Str.dirname path ∈ state.dirs then
      .ok { state with files := fun p => if p = path then some d else state.files p }
    else .error ⟨.fileNotFoundError, "[Errno 2] No such file or directory: \x27" ++ path ++ "\x27"⟩

def firstFound (call : OciRepositoryContext → Call)
    (answer : OciRepositoryContext → Option ComponentDescriptor) :
    List OciRepositoryContext → Trace Call LookupResult
  | [] => pure .none
  | ctx :: ctxs =>
    emit (call ctx) >>= fun _ =>
    match answer ctx with
    | some d => pure (.descriptor d)
    | none => firstFound call answer ctxs

def deliveryLookup (client : DeliveryClient) (ctx : Option OciRepositoryContext) :
    Trace Call LookupResult :=
  liftExcept (candidates mapping id.name ctx) >>=
    firstFound (fun ctx => .deliveryComponentDescriptor id.name id.version ctx.ociRef)
      (fun ctx => client id.name id.version ctx.ociRef)

/-- The lookup of `oci_component_descriptor_lookup`, `absent_ok` defaulting to true: the
component name is lower-cased, also for the mapping config. -/
def ociLookup (registry : Registry) (ctx : Option OciRepositoryContext) :
    Trace Call LookupResult :=
  liftExcept (candidates mapping (lower id.name) ctx) >>=
    firstFound (fun ctx => .ociManifest (componentVersionOciRef lower ctx id))
      (fun ctx => registry (componentVersionOciRef lower ctx id))

end Layers

section Composite

variable (lower : String → String) (mapping : Option MappingConfig) (id : ComponentIdentity)

def layerLookup (state : CacheState) (ctx : Option OciRepositoryContext) :
    Layer → Trace Call (LookupResult × CacheState)
  | .inMemory =>
    liftExcept (inMemoryLookup mapping id state.memory ctx) >>= fun r => pure (r.1, { state with memory := r.2 })
  | .fileSystem cacheDir => liftExcept (fileSystemLookup mapping id cacheDir state ctx)
  | .deliveryService client => deliveryLookup mapping id client ctx >>= fun r => pure (r, state)
  | .ociRegistry registry => ociLookup lower mapping id registry ctx >>= fun r => pure (r, state)

def writeback (state : CacheState) (d : ComponentDescriptor) : Layer → Except PyExc CacheState
  | .inMemory => (inMemoryWriteback id state.memory d).map fun memory => { state with memory }
  | .fileSystem cacheDir => fileSystemWriteback id cacheDir state d
  | .deliveryService _ | .ociRegistry _ => .ok state

def applyWritebacks (d : ComponentDescriptor) : List Layer → CacheState → CacheState × Option PyExc
  | [], state => (state, none)
  | wb :: wbs, state =>
    match writeback id state d wb with
    | .ok state => applyWritebacks d wbs state
    | .error e => (state, some e)

def compositeLoop (ctx : Option OciRepositoryContext) :
    List Layer → List Layer → CacheState → Trace Call (Option ComponentDescriptor) × CacheState
  | [], _, state => (pure none, state)
  | layer :: layers, writebacks, state =>
    let t := (layerLookup lower mapping id state ctx layer).tryExcept ociImageNotFound (.none, state)
    match t.result with
    | .error h => (⟨t.calls, .error h⟩, state)
    | .ok (.descriptor d, state) =>
      match applyWritebacks id d writebacks state with
      | (state, none) => (⟨t.calls, .ok (some d)⟩, state)
      | (state, some e) => (⟨t.calls, .error (.raised e)⟩, state)
    | .ok (.none, state) =>
      let r := compositeLoop ctx layers writebacks state
      (⟨t.calls ++ r.1.calls, r.1.result⟩, r.2)
    | .ok (.writeBack wb, state) =>
      let r := compositeLoop ctx layers (writebacks ++ [wb]) state
      (⟨t.calls ++ r.1.calls, r.1.result⟩, r.2)

def compositeLookup (layers : List Layer) (absentOk : Bool) (state : CacheState)
    (ctx : Option OciRepositoryContext) : Trace Call (Option ComponentDescriptor) × CacheState :=
  let r := compositeLoop lower mapping id ctx layers [] state
  (r.1 >>= fun
    | some d => pure (some d)
    | none =>
      if absentOk then pure none
      else match ctx with
        | some ctx => raise ⟨ociImageNotFound, componentVersionOciRef lower ctx id⟩
        | none => raise ⟨.attributeError,
            "\x27NoneType\x27 object has no attribute \x27component_version_oci_ref\x27"⟩,
    r.2)

@[simp] theorem compositeLookup_state (mapping : Option MappingConfig) (id : ComponentIdentity)
    (layers : List Layer) (absentOk : Bool) (state : CacheState) (ctx : Option OciRepositoryContext) :
    (compositeLookup lower mapping id layers absentOk state ctx).2 = (compositeLoop lower mapping id ctx layers [] state).2 :=
  rfl

section Steps

variable {lower : String → String} {mapping : Option MappingConfig} {id : ComponentIdentity}
  {state : CacheState}
  {ctx : Option OciRepositoryContext}

theorem inMemoryLookup_go_miss {memory : MemoryCache} :
    ∀ {ctxs : List OciRepositoryContext}, (∀ r ∈ ctxs, ∀ e ∈ memory.entries, e.1 ≠ (id, r)) →
      inMemoryLookup.go id memory ctxs = (.writeBack .inMemory, memory)
  | [], _ => rfl
  | r :: ctxs, h => by
    rw [inMemoryLookup.go, LruCache.get_of_forall_ne (h r (List.mem_cons_self _ _))]
    exact inMemoryLookup_go_miss fun r' hr' => h r' (List.mem_cons_of_mem _ hr')

variable (lower) in
theorem layerLookup_inMemory_miss {ctxs : List OciRepositoryContext}
    (hc : candidates mapping id.name ctx = .ok ctxs)
    (h : ∀ r ∈ ctxs, ∀ e ∈ state.memory.entries, e.1 ≠ (id, r)) :
    layerLookup lower mapping id state ctx .inMemory = pure (.writeBack .inMemory, state) := by
  simp [layerLookup, inMemoryLookup, hc, inMemoryLookup_go_miss h]

variable (lower) in
theorem layerLookup_inMemory_hit {r : OciRepositoryContext} {rest : List OciRepositoryContext}
    {d : ComponentDescriptor} {memory : MemoryCache}
    (hc : candidates mapping id.name ctx = .ok (r :: rest)) (h : state.memory.get (id, r) = (some d, memory)) :
    layerLookup lower mapping id state ctx .inMemory = pure (.descriptor d, { state with memory }) := by
  simp [layerLookup, inMemoryLookup, hc, inMemoryLookup.go, h]

variable (lower) in
theorem layerLookup_fileSystem_hit {cacheDir : String} {r : OciRepositoryContext}
    {d : ComponentDescriptor} (hp : fileSystemPath mapping id ctx = .ok (some r))
    (hf : state.files (descriptorPath cacheDir r id) = some d) :
    layerLookup lower mapping id state ctx (.fileSystem cacheDir) = pure (.descriptor d, state) := by
  simp [layerLookup, fileSystemLookup, hp, hf]

variable (lower) in
theorem layerLookup_fileSystem_miss {cacheDir : String} {r : OciRepositoryContext}
    (hp : fileSystemPath mapping id ctx = .ok (some r))
    (hf : state.files (descriptorPath cacheDir r id) = none) :
    layerLookup lower mapping id state ctx (.fileSystem cacheDir) =
      pure (.writeBack (.fileSystem cacheDir),
        { state with dirs := Str.dirname (descriptorPath cacheDir r id) :: state.dirs }) := by
  simp [layerLookup, fileSystemLookup, hp, hf]

theorem deliveryLookup_asks_first {client : DeliveryClient} {r : OciRepositoryContext}
    {rest : List OciRepositoryContext} (hc : candidates mapping id.name ctx = .ok (r :: rest)) :
    .deliveryComponentDescriptor id.name id.version r.ociRef ∈ (deliveryLookup mapping id client ctx).calls := by
  simp [deliveryLookup, hc, firstFound]

theorem compositeLoop_starts_with_layer_calls {layer : Layer} {layers writebacks : List Layer} :
    (layerLookup lower mapping id state ctx layer).calls <+:
      (compositeLoop lower mapping id ctx (layer :: layers) writebacks state).1.calls := by
  simp only [compositeLoop]
  split <;> (try split) <;> simp [List.prefix_append]

theorem compositeLoop_writeBack {layer wb : Layer} {layers writebacks : List Layer} {state' : CacheState}
    (h : (layerLookup lower mapping id state ctx layer).result = .ok (.writeBack wb, state')) :
    compositeLoop lower mapping id ctx (layer :: layers) writebacks state =
      (⟨(layerLookup lower mapping id state ctx layer).calls ++
          (compositeLoop lower mapping id ctx layers (writebacks ++ [wb]) state').1.calls,
        (compositeLoop lower mapping id ctx layers (writebacks ++ [wb]) state').1.result⟩,
        (compositeLoop lower mapping id ctx layers (writebacks ++ [wb]) state').2) := by
  simp only [compositeLoop, tryExcept_of_ok h, h]

theorem compositeLoop_descriptor {layer : Layer} {layers writebacks : List Layer}
    {d : ComponentDescriptor} {state' state'' : CacheState} {err : Option PyExc}
    (h : (layerLookup lower mapping id state ctx layer).result = .ok (.descriptor d, state'))
    (hw : applyWritebacks id d writebacks state' = (state'', err)) :
    compositeLoop lower mapping id ctx (layer :: layers) writebacks state =
      (⟨(layerLookup lower mapping id state ctx layer).calls,
        err.elim (.ok (some d)) fun e => .error (.raised e)⟩, state'') := by
  cases err <;> simp only [compositeLoop, tryExcept_of_ok h, h, hw, Option.elim_none, Option.elim_some]

theorem applyWritebacks_caches {cacheDir : String} {d : ComponentDescriptor} {r : OciRepositoryContext}
    (hctx : d.currentRepositoryCtx = some r) :
    applyWritebacks id d [.inMemory, .fileSystem cacheDir] state =
      if Str.dirname (descriptorPath cacheDir r id) ∈ state.dirs then
        ({ state with
            memory := LruCache.set state.memory (id, r) d
            files := fun p => if p = descriptorPath cacheDir r id then some d else state.files p }, none)
      else ({ state with memory := LruCache.set state.memory (id, r) d },
        some ⟨.fileNotFoundError,
          "[Errno 2] No such file or directory: \x27" ++ descriptorPath cacheDir r id ++ "\x27"⟩) := by
  by_cases h : Str.dirname (descriptorPath cacheDir r id) ∈ state.dirs <;>
    simp [applyWritebacks, writeback, inMemoryWriteback, fileSystemWriteback, hctx, h, Except.map]

theorem compositeLoop_caches_miss (state : CacheState) {cacheDir : String} {r1 : OciRepositoryContext}
    {ctxs : List OciRepositoryContext} {layers : List Layer}
    (hc : candidates mapping id.name ctx = .ok ctxs) (hp : fileSystemPath mapping id ctx = .ok (some r1))
    (hmem : ∀ r ∈ ctxs, ∀ e ∈ state.memory.entries, e.1 ≠ (id, r))
    (hfile : state.files (descriptorPath cacheDir r1 id) = none) :
    compositeLoop lower mapping id ctx (.inMemory :: .fileSystem cacheDir :: layers) [] state =
      compositeLoop lower mapping id ctx layers [.inMemory, .fileSystem cacheDir]
        { state with dirs := Str.dirname (descriptorPath cacheDir r1 id) :: state.dirs } := by
  have h1 := layerLookup_inMemory_miss lower hc hmem
  have h2 := layerLookup_fileSystem_miss lower hp hfile
  rw [compositeLoop_writeBack (by rw [h1]; rfl), h1, compositeLoop_writeBack (by rw [h2]; rfl), h2]
  rfl

theorem firstFound_result {call : OciRepositoryContext → Call}
    {answer : OciRepositoryContext → Option ComponentDescriptor} :
    ∀ {ctxs : List OciRepositoryContext} {r : LookupResult},
      (firstFound call answer ctxs).result = .ok r → r = .none ∨ ∃ d, r = .descriptor d
  | [], _, h => .inl (Except.ok.inj h).symm
  | ctx :: ctxs, r, h => by
    rw [firstFound, emit_bind] at h
    split at h
    · exact .inr ⟨_, (Except.ok.inj h).symm⟩
    · exact firstFound_result h

theorem layerLookup_service {layer : Layer} (hs : layer.isCache = false) {r : LookupResult}
    {state' : CacheState} (h : (layerLookup lower mapping id state ctx layer).result = .ok (r, state')) :
    state' = state ∧ (r = .none ∨ ∃ d, r = .descriptor d) := by
  cases layer with
  | inMemory | fileSystem _ => cases hs
  | deliveryService client | ociRegistry registry =>
    obtain ⟨r', hr', hpure⟩ := bind_result_ok.mp h
    cases Except.ok.inj hpure
    obtain ⟨_, -, hfirst⟩ := bind_result_ok.mp hr'
    exact ⟨rfl, firstFound_result hfirst⟩

theorem compositeLoop_services {d : ComponentDescriptor} :
    ∀ {layers writebacks : List Layer} {state : CacheState} {t : Trace Call (Option ComponentDescriptor)}
      {state' : CacheState}, (∀ layer ∈ layers, layer.isCache = false) →
      compositeLoop lower mapping id ctx layers writebacks state = (t, state') → t.result = .ok (some d) →
      applyWritebacks id d writebacks state = (state', none)
  | [], _, _, _, _, _, h, ht => by cases h; cases ht
  | layer :: layers, writebacks, state, t, state', hs, h, ht => by
    have hlayer := hs layer (List.mem_cons_self _ _)
    simp only [compositeLoop] at h
    split at h
    · cases h; cases ht
    · next d' s' heq =>
      rcases tryExcept_result_ok heq with hl | hl
      · obtain ⟨rfl, -⟩ := layerLookup_service hlayer hl
        split at h <;> cases h
        · next hw => cases ht; exact hw
        · cases ht
      · cases hl
    · next s' heq =>
      have hs' : s' = state := by
        rcases tryExcept_result_ok heq with hl | hl
        · exact (layerLookup_service hlayer hl).1
        · cases hl; rfl
      subst hs'
      cases h
      exact compositeLoop_services (fun l hl => hs l (List.mem_cons_of_mem _ hl)) rfl ht
    · next wb s' heq =>
      rcases tryExcept_result_ok heq with hl | hl
      · rcases (layerLookup_service hlayer hl).2 with h' | ⟨_, h'⟩ <;> cases h'
      · cases hl

theorem applyWritebacks_memory {d : ComponentDescriptor} {r : OciRepositoryContext}
    (hctx : d.currentRepositoryCtx = some r) :
    applyWritebacks id d [.inMemory] state =
      ({ state with memory := LruCache.set state.memory (id, r) d }, none) := by
  simp [applyWritebacks, writeback, inMemoryWriteback, hctx, Except.map]

theorem compositeLoop_direct_fills_caches {cacheDir : String} {r : OciRepositoryContext}
    {rest : List Layer} (hs : ∀ layer ∈ rest, layer.isCache = false) {d : ComponentDescriptor}
    (hctx : d.currentRepositoryCtx = some r) (hmem : ∀ e ∈ state.memory.entries, e.1 ≠ (id, r))
    (hfound : (compositeLoop lower none id (some r) (.inMemory :: .fileSystem cacheDir :: rest) [] state).1.result =
      .ok (some d)) :
    (compositeLoop lower none id (some r) (.inMemory :: .fileSystem cacheDir :: rest) [] state).2.memory =
        LruCache.set state.memory (id, r) d ∧
      (compositeLoop lower none id (some r) (.inMemory :: .fileSystem cacheDir :: rest) [] state).2.files
        (descriptorPath cacheDir r id) = some d := by
  have hc : candidates none id.name (some r) = .ok [r] := rfl
  have hp : fileSystemPath none id (some r) = .ok (some r) := rfl
  have hmiss : ∀ r' ∈ [r], ∀ e ∈ state.memory.entries, e.1 ≠ (id, r') := by simpa using hmem
  cases hf : state.files (descriptorPath cacheDir r id) with
  | none =>
    rw [compositeLoop_caches_miss state hc hp hmiss hf] at hfound ⊢
    have hw := compositeLoop_services hs rfl hfound
    rw [applyWritebacks_caches hctx, if_pos (List.mem_cons_self _ _)] at hw
    rw [← (Prod.mk.inj hw).1]
    simp
  | some d' =>
    have h1 := layerLookup_inMemory_miss lower hc hmiss
    have h2 := layerLookup_fileSystem_hit lower hp hf
    rcases hw : applyWritebacks id d' [.inMemory] state with ⟨state', _ | e⟩
    all_goals rw [compositeLoop_writeBack (by rw [h1]; rfl), List.nil_append,
      compositeLoop_descriptor (by rw [h2]; rfl) hw] at hfound ⊢
    · cases hfound
      rw [applyWritebacks_memory hctx] at hw
      cases hw
      exact ⟨rfl, hf⟩
    · cases hfound

end Steps

end Composite

structure CtxConfig where
  cacheDir : Option String
  ocmRepoBaseUrl : Option OciRepositoryContext

structure Services where
  defaultDeliveryClient : Option DeliveryClient
  registry : Registry

structure DefaultLookup where
  mapping : Option MappingConfig
  layers : List Layer
  defaultCtxRepo : Option OciRepositoryContext
  defaultAbsentOk : Bool

def freshMemory : MemoryCache := LruCache.empty 2048

def createDefaultComponentDescriptorLookup (services : Services) (cfg : Option CtxConfig)
    (defaultCtxRepo : Option OciRepositoryContext) (cacheDir : Option String)
    (deliveryClient : Option DeliveryClient) (defaultAbsentOk : Bool)
    (mapping : Option MappingConfig) : Except PyExc DefaultLookup :=
  if defaultCtxRepo.isSome ∧ mapping.isSome then
    .error ⟨.valueError,
      "Both \x27default_ctx_repo\x27 and \x27mapping_config\x27 must not be set at the same time."⟩
  else
    let cacheDir := if cacheDir.getD "" = "" then cfg.bind (·.cacheDir) else cacheDir
    let fileSystemLayers := match cacheDir with
      | some dir => if dir = "" then [] else [Layer.fileSystem dir]
      | none => []
    let deliveryLayers := match deliveryClient.orElse fun _ => services.defaultDeliveryClient with
      | some client => [Layer.deliveryService client]
      | none => []
    let layers := [.inMemory] ++ fileSystemLayers ++ deliveryLayers ++ [.ociRegistry services.registry]
    let defaultCtxRepo : Except PyExc (Option OciRepositoryContext) := match defaultCtxRepo, cfg with
      | some repo, _ => .ok (some repo)
      | none, some cfg => .ok cfg.ocmRepoBaseUrl
      | none, none => .error ⟨.attributeError, "\x27NoneType\x27 object has no attribute \x27ctx\x27"⟩
    defaultCtxRepo.map fun defaultCtxRepo => ⟨mapping, layers, defaultCtxRepo, defaultAbsentOk⟩

def DefaultLookup.lookup (l : DefaultLookup) (lower : String → String) (state : CacheState)
    (id : ComponentIdentity) (ctx : Option OciRepositoryContext) (absentOk : Bool) :
    Trace Call (Option ComponentDescriptor) × CacheState :=
  compositeLookup lower l.mapping id l.layers absentOk state ctx

theorem createDefault_layers {services : Services} {cfg : Option CtxConfig} {cacheDir : String}
    {client : DeliveryClient} {absentOk : Bool} {mapping : Option MappingConfig} {l : DefaultLookup}
    (hl : createDefaultComponentDescriptorLookup services cfg none (some cacheDir) none absentOk mapping = .ok l)
    (hdir : cacheDir ≠ "") (hclient : services.defaultDeliveryClient = some client) :
    l.mapping = mapping ∧
      l.layers = [.inMemory, .fileSystem cacheDir, .deliveryService client, .ociRegistry services.registry] := by
  unfold createDefaultComponentDescriptorLookup at hl
  cases cfg with
  | none => simp [Except.map] at hl
  | some cfg =>
    simp only [Except.map] at hl
    cases hl
    simp [hdir, hclient]

theorem createDefault_cache_layers {services : Services} {cfg : Option CtxConfig}
    {cacheDir : String} {absentOk : Bool} {mapping : Option MappingConfig} {l : DefaultLookup}
    (hl : createDefaultComponentDescriptorLookup services cfg none (some cacheDir) none absentOk mapping = .ok l)
    (hdir : cacheDir ≠ "") :
    l.mapping = mapping ∧ ∃ rest, l.layers = .inMemory :: .fileSystem cacheDir :: rest ∧
      ∀ layer ∈ rest, layer.isCache = false := by
  unfold createDefaultComponentDescriptorLookup at hl
  cases cfg with
  | none => simp [Except.map] at hl
  | some cfg =>
    simp only [Except.map] at hl
    cases hl
    simp only [hdir, true_and, List.cons.injEq, exists_eq_left', Option.getD_some, if_false]
    split <;> simp [Layer.isCache]

theorem compositeLookup_found {mapping : Option MappingConfig} {id : ComponentIdentity}
    {layers : List Layer} {absentOk : Bool} {state : CacheState} {ctx : Option OciRepositoryContext}
    {d : ComponentDescriptor} :
    (compositeLookup lower mapping id layers absentOk state ctx).1.result = .ok (some d) ↔
      (compositeLoop lower mapping id ctx layers [] state).1.result = .ok (some d) := by
  simp only [compositeLookup, bind_result_ok]
  constructor
  · rintro ⟨_ | d', h, hd⟩
    · cases absentOk <;> cases ctx <;> simp [raise] at hd
    · cases hd; exact h
  · exact fun h => ⟨_, h, rfl⟩

theorem compositeLookup_of_found {mapping : Option MappingConfig} {id : ComponentIdentity}
    {layers : List Layer} {absentOk : Bool} {state : CacheState} {ctx : Option OciRepositoryContext}
    {calls : List Call} {d : ComponentDescriptor}
    (h : (compositeLoop lower mapping id ctx layers [] state).1 = ⟨calls, .ok (some d)⟩) :
    (compositeLookup lower mapping id layers absentOk state ctx).1 = ⟨calls, .ok (some d)⟩ := by
  have hok : (⟨calls, .ok (some d)⟩ : Trace Call (Option ComponentDescriptor)).result = .ok (some d) := rfl
  simp only [compositeLookup, h, bind_of_ok hok, pure_calls, List.append_nil, pure_result]

def repoOne : OciRepositoryContext := ⟨"one"⟩

def repoTwo : OciRepositoryContext := ⟨"two"⟩

def mappedId : ComponentIdentity := ⟨"example.org/component", "1.0.0"⟩

def deliveryFromTwo : DeliveryClient := fun _ _ url =>
  if url = repoTwo.ociRef then some ⟨mappedId, some repoTwo⟩ else none

def mappedServices : Services := ⟨some deliveryFromTwo, fun _ => none⟩

theorem direct_lookup_answered_by_caches (lower : String → String) {services : Services} {cfg : Option CtxConfig}
    {cacheDir : String} {defaultAbsentOk : Bool} {l : DefaultLookup}
    (hl : createDefaultComponentDescriptorLookup services cfg none (some cacheDir) none
      defaultAbsentOk none = .ok l)
    (hdir : cacheDir ≠ "") {id : ComponentIdentity} {r : OciRepositoryContext} {d : ComponentDescriptor}
    (hctx : d.currentRepositoryCtx = some r) (state : CacheState) (absentOk absentOk' : Bool)
    (hsize : 0 < state.memory.maxsize) (hmem : ∀ e ∈ state.memory.entries, e.1 ≠ (id, r))
    (hfound : (l.lookup lower state id (some r) absentOk).1.result = .ok (some d)) :
    (l.lookup lower (l.lookup lower state id (some r) absentOk).2 id (some r) absentOk').1 = ⟨[], .ok (some d)⟩ ∧
    (l.lookup lower ⟨freshMemory, (l.lookup lower state id (some r) absentOk).2.files,
      (l.lookup lower state id (some r) absentOk).2.dirs⟩ id (some r) absentOk').1 = ⟨[], .ok (some d)⟩ := by
  obtain ⟨hmap, rest, hlayers, hs⟩ := createDefault_cache_layers hl hdir
  simp only [DefaultLookup.lookup, hmap, hlayers, compositeLookup_state] at hfound ⊢
  obtain ⟨hmemory, hfile⟩ := compositeLoop_direct_fills_caches hs hctx hmem (compositeLookup_found.mp hfound)
  have hc : candidates none id.name (some r) = .ok [r] := rfl
  have hp : fileSystemPath none id (some r) = .ok (some r) := rfl
  generalize (compositeLoop lower none id (some r) (.inMemory :: .fileSystem cacheDir :: rest) [] state).2 = s
    at hmemory hfile ⊢
  refine ⟨compositeLookup_of_found ?_, compositeLookup_of_found ?_⟩
  · -- the memory holds the descriptor
    have hget : s.memory.get (id, r) = (some d, (s.memory.get (id, r)).2) :=
      Prod.ext (by rw [hmemory]; exact LruCache.get_set_self hsize) rfl
    have h1 := layerLookup_inMemory_hit lower hc hget
    rw [compositeLoop_descriptor (by rw [h1]; rfl) rfl, h1]
    rfl
  · -- a fresh memory misses, the file holds the descriptor
    have hfresh : ∀ r' ∈ [r], ∀ e ∈ (⟨freshMemory, s.files, s.dirs⟩ : CacheState).memory.entries,
        e.1 ≠ (id, r') := by
      simp [freshMemory, LruCache.empty]
    have hfile' : (⟨freshMemory, s.files, s.dirs⟩ : CacheState).files (descriptorPath cacheDir r id) =
      some d := hfile
    have h1 := layerLookup_inMemory_miss lower hc hfresh
    have h2 := layerLookup_fileSystem_hit lower hp hfile'
    rw [compositeLoop_writeBack (by rw [h1]; rfl), List.nil_append,
      compositeLoop_descriptor (by rw [h2]; rfl) (applyWritebacks_memory hctx), h1, h2]
    rfl

def directLookup : DefaultLookup :=
  ⟨none, [.inMemory, .fileSystem "cache", .deliveryService deliveryFromTwo, .ociRegistry fun _ => none],
    none, false⟩

example : (directLookup.lookup Str.asciiLower (directLookup.lookup Str.asciiLower ⟨freshMemory, fun _ => none, []⟩ mappedId
    (some repoTwo) false).2 mappedId (some repoTwo) false).1.calls = [] := by
  have hl : createDefaultComponentDescriptorLookup mappedServices (some ⟨none, none⟩) none
      (some "cache") none false none = .ok directLookup := rfl
  have hctx : (⟨mappedId, some repoTwo⟩ : ComponentDescriptor).currentRepositoryCtx = some repoTwo := rfl
  have hfound : (directLookup.lookup Str.asciiLower ⟨freshMemory, fun _ => none, []⟩ mappedId (some repoTwo) false).1.result =
    .ok (some ⟨mappedId, some repoTwo⟩) := rfl
  exact congrArg Trace.calls (direct_lookup_answered_by_caches Str.asciiLower hl (by decide) hctx
    ⟨freshMemory, fun _ => none, []⟩ false false (by decide) (by simp [freshMemory, LruCache.empty]) hfound).1

theorem default_lookup_file_cache_keyed_by_first_candidate (lower : String → String)
    {services : Services} {cfg : Option CtxConfig} {cacheDir : String} {client : DeliveryClient}
    {defaultAbsentOk : Bool} {m : MappingConfig} {l : DefaultLookup}
    (hl : createDefaultComponentDescriptorLookup services cfg none (some cacheDir) none
      defaultAbsentOk (some m) = .ok l)
    (hdir : cacheDir ≠ "") (hclient : services.defaultDeliveryClient = some client)
    {id : ComponentIdentity} {r1 r : OciRepositoryContext} {rest : List OciRepositoryContext}
    {d : ComponentDescriptor} (hcand : m.iterOcmRepositories id.name = r1 :: rest)
    (ctx : Option OciRepositoryContext)
    (hfound : (deliveryLookup (some m) id client ctx).result = .ok (.descriptor d))
    (hctx : d.currentRepositoryCtx = some r)
    (hdirs : Str.dirname (descriptorPath cacheDir r id) ≠ Str.dirname (descriptorPath cacheDir r1 id))
    (state : CacheState) (absentOk : Bool) (hmem : ∀ e ∈ state.memory.entries, e.1.1 ≠ id)
    (hfile : state.files (descriptorPath cacheDir r1 id) = none) :
    (Str.dirname (descriptorPath cacheDir r id) ∉ state.dirs →
      ∃ e, (l.lookup lower state id ctx absentOk).1.result = .error (.raised e) ∧ e.cls = .fileNotFoundError) ∧
    (∀ res, (l.lookup lower state id ctx absentOk).1.result = .ok res →
      (l.lookup lower state id ctx absentOk).2.files (descriptorPath cacheDir r1 id) = none) ∧
    .deliveryComponentDescriptor id.name id.version r1.ociRef ∈
      (l.lookup lower ⟨freshMemory, state.files, state.dirs⟩ id ctx absentOk).1.calls := by
  obtain ⟨hmap, hlayers⟩ := createDefault_layers hl hdir hclient
  have hc : candidates (some m) id.name ctx = .ok (r1 :: rest) := by simp [candidates, hcand]
  have hp : fileSystemPath (some m) id ctx = .ok (some r1) := by simp [fileSystemPath, hcand]
  have hpath : descriptorPath cacheDir r id ≠ descriptorPath cacheDir r1 id := fun h => hdirs (by rw [h])
  have hfresh : ∀ r ∈ r1 :: rest, ∀ e ∈ freshMemory.entries, e.1 ≠ (id, r) := by
    simp [freshMemory, LruCache.empty]
  simp only [DefaultLookup.lookup, compositeLookup, hmap, hlayers,
    compositeLoop_caches_miss state hc hp (fun _ _ e he heq => hmem e he (congrArg Prod.fst heq)) hfile,
    compositeLoop_caches_miss ⟨freshMemory, state.files, state.dirs⟩ hc hp hfresh hfile]
  have hd : (layerLookup lower (some m) id
      { state with dirs := Str.dirname (descriptorPath cacheDir r1 id) :: state.dirs } ctx
      (.deliveryService client)).result =
        .ok (.descriptor d, { state with dirs := Str.dirname (descriptorPath cacheDir r1 id) :: state.dirs }) := by
    simp [layerLookup, bind_of_ok hfound]
  refine ⟨fun hr => ?_, fun res hres => ?_, ?_⟩
  · -- the file-system writeback finds no directory
    have hnot : Str.dirname (descriptorPath cacheDir r id) ∉
        Str.dirname (descriptorPath cacheDir r1 id) :: state.dirs := by simp [hr, hdirs]
    rw [compositeLoop_descriptor hd (by rw [applyWritebacks_caches hctx, if_neg hnot])]
    exact ⟨_, rfl, rfl⟩
  · -- the file-system writeback wrote at the path of `r` only
    by_cases hin : Str.dirname (descriptorPath cacheDir r id) ∈
      Str.dirname (descriptorPath cacheDir r1 id) :: state.dirs
    · rw [compositeLoop_descriptor hd (by rw [applyWritebacks_caches hctx, if_pos hin])]
      simp [hpath.symm, hfile]
    · rw [compositeLoop_descriptor hd (by rw [applyWritebacks_caches hctx, if_neg hin]),
        bind_of_error rfl] at hres
      cases hres
  · -- a fresh process reaches the delivery layer
    exact mem_bind_calls_left (compositeLoop_starts_with_layer_calls.subset
      (mem_bind_calls_left (deliveryLookup_asks_first hc)))

def twoRepositoryMapping : MappingConfig := ⟨fun _ => [repoOne, repoTwo]⟩

def mappedLookup : DefaultLookup :=
  ⟨some twoRepositoryMapping,
    [.inMemory, .fileSystem "cache", .deliveryService deliveryFromTwo, .ociRegistry fun _ => none],
    none, false⟩

theorem mapped_lookup_raises_or_misses_file_cache :
    (∃ e, (mappedLookup.lookup Str.asciiLower ⟨freshMemory, fun _ => none, []⟩ mappedId none false).1.result =
      .error (.raised e) ∧ e.cls = .fileNotFoundError) ∧
    .deliveryComponentDescriptor mappedId.name mappedId.version repoOne.ociRef ∈
      (mappedLookup.lookup Str.asciiLower ⟨freshMemory,
        (mappedLookup.lookup Str.asciiLower ⟨freshMemory, fun _ => none, ["cache/two/example.org"]⟩ mappedId none false).2.files,
        []⟩ mappedId none false).1.calls := by
  have hl : createDefaultComponentDescriptorLookup mappedServices (some ⟨none, none⟩) none
      (some "cache") none false (some twoRepositoryMapping) = .ok mappedLookup := rfl
  have hempty : ∀ e ∈ freshMemory.entries, e.1.1 ≠ mappedId := by simp [freshMemory, LruCache.empty]
  have hfirst := default_lookup_file_cache_keyed_by_first_candidate Str.asciiLower hl (by decide) rfl rfl none rfl rfl
    (by decide) ⟨freshMemory, fun _ => none, []⟩ false hempty rfl
  have hwritten := default_lookup_file_cache_keyed_by_first_candidate Str.asciiLower hl (by decide) rfl rfl none rfl
    rfl (by decide) ⟨freshMemory, fun _ => none, ["cache/two/example.org"]⟩ false hempty rfl
  have hfresh := default_lookup_file_cache_keyed_by_first_candidate Str.asciiLower hl (by decide) rfl rfl none rfl
    rfl (by decide)
    ⟨freshMemory, (mappedLookup.lookup Str.asciiLower ⟨freshMemory, fun _ => none, ["cache/two/example.org"]⟩ mappedId none false).2.files, []⟩
    false hempty (hwritten.2.1 _ rfl)
  exact ⟨hfirst.1 (by decide), hfresh.2.2⟩

theorem descriptorPath_eq (cacheDir : String) {ctx : OciRepositoryContext} {id : ComponentIdentity}
    (href : ctx.ociRef ≠ "") (hname : id.name.toList.head? ≠ some '/') :
    descriptorPath cacheDir ctx id = Str.pathJoin cacheDir "" ++ Str.replace ctx.ociRef '/' '-' ++
      "/" ++ (id.name ++ "-" ++ id.version) := by
  have hsep : '/' ∉ (Str.replace ctx.ociRef '/' '-').data := Str.not_mem_replace (by decide)
  have hne : (Str.replace ctx.ociRef '/' '-').data ≠ [] := by
    intro h
    apply href
    apply String.ext
    simpa [Str.replace] using h
  have hy : (id.name ++ "-" ++ id.version).toList.head? ≠ some '/' := by
    simp only [String.toList, String.data_append] at hname ⊢
    cases h : id.name.data with
    | nil => simp
    | cons c cs => simpa [h] using hname
  have hj := Str.pathJoin_relative cacheDir fun h => hsep (List.mem_of_mem_head? h)
  rw [descriptorPath, Str.pathJoin_relative _ hy, hj, Str.pathJoin_empty]
  · intro h
    exact hne (List.append_eq_nil.mp (congrArg String.data h)).2
  · intro h
    rw [String.toList, String.data_append, List.getLast?_append] at h
    obtain ⟨c, hc⟩ := Option.ne_none_iff_exists'.mp (mt List.getLast?_eq_none_iff.mp hne)
    rw [hc] at h
    exact hsep (List.mem_of_mem_getLast? (Option.some.inj h ▸ hc))

theorem descriptorPath_eq_iff (cacheDir : String) {ctx ctx' : OciRepositoryContext}
    {id id' : ComponentIdentity} (href : ctx.ociRef ≠ "") (href' : ctx'.ociRef ≠ "")
    (hname : id.name.toList.head? ≠ some '/') (hname' : id'.name.toList.head? ≠ some '/') :
    descriptorPath cacheDir ctx id = descriptorPath cacheDir ctx' id' ↔
      Str.replace ctx.ociRef '/' '-' = Str.replace ctx'.ociRef '/' '-' ∧
        id.name ++ "-" ++ id.version = id'.name ++ "-" ++ id'.version := by
  have hsep : ∀ c : OciRepositoryContext, '/' ∉ (Str.replace c.ociRef '/' '-').data :=
    fun _ => Str.not_mem_replace (by decide)
  rw [descriptorPath_eq cacheDir href hname, descriptorPath_eq cacheDir href' hname']
  simp only [String.ext_iff, String.data_append, List.append_assoc]
  constructor
  · intro h
    exact Str.append_sep_inj (hsep ctx) (hsep ctx') (List.append_cancel_left h)
  · rintro ⟨hx, hs⟩
    rw [hx, hs]

theorem file_cache_shares_paths_across_keys (cacheDir : String)
    (ctx ctx' : OciRepositoryContext) (id id' : ComponentIdentity) :
    (Str.replace ctx.ociRef '/' '-' = Str.replace ctx'.ociRef '/' '-' →
      id.name ++ "-" ++ id.version = id'.name ++ "-" ++ id'.version →
      descriptorPath cacheDir ctx id = descriptorPath cacheDir ctx' id') ∧
    (ctx.ociRef ≠ "" → ctx'.ociRef ≠ "" → id.name.toList.head? ≠ some '/' →
      id'.name.toList.head? ≠ some '/' →
      (descriptorPath cacheDir ctx id = descriptorPath cacheDir ctx' id' ↔
        Str.replace ctx.ociRef '/' '-' = Str.replace ctx'.ociRef '/' '-' ∧
          id.name ++ "-" ++ id.version = id'.name ++ "-" ++ id'.version)) ∧
    ∀ (state state' : CacheState) (d : ComponentDescriptor), d.currentRepositoryCtx = some ctx →
      fileSystemWriteback id cacheDir state d = .ok state' →
      descriptorPath cacheDir ctx id = descriptorPath cacheDir ctx' id' →
      fileSystemLookup none id' cacheDir state' (some ctx') = .ok (.descriptor d, state') := by
  refine ⟨fun hx hs => by rw [descriptorPath, descriptorPath, hx, hs],
    fun href href' hname hname' => descriptorPath_eq_iff cacheDir href href' hname hname',
    fun state state' d hctx hw hpath => ?_⟩
  simp only [fileSystemWriteback, hctx] at hw
  split at hw
  · cases hw
    simp [fileSystemLookup, fileSystemPath, hpath]
  · cases hw

def slashRepo : OciRepositoryContext := ⟨"registry.example/a/b"⟩

def dashRepo : OciRepositoryContext := ⟨"registry.example/a-b"⟩

theorem slash_and_dash_repositories_share_file :
    slashRepo ≠ dashRepo ∧ ∃ state', fileSystemWriteback mappedId "cache"
      ⟨freshMemory, fun _ => none, [Str.dirname (descriptorPath "cache" slashRepo mappedId)]⟩
      ⟨mappedId, some slashRepo⟩ = .ok state' ∧
    fileSystemLookup none mappedId "cache" state' (some dashRepo) =
      .ok (.descriptor ⟨mappedId, some slashRepo⟩, state') :=
  ⟨by decide, _, rfl, (file_cache_shares_paths_across_keys "cache" slashRepo dashRepo mappedId
    mappedId).2.2 ⟨freshMemory, fun _ => none, [Str.dirname (descriptorPath "cache" slashRepo mappedId)]⟩
    _ _ rfl rfl (by decide)⟩

end CcUtils.Cnudie.Retrieve
