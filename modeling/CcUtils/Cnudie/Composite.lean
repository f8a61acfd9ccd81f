import CcUtils.Cnudie.Retrieve

namespace CcUtils.Cnudie.Composite

open CcUtils.Python.Exceptions CcUtils.Python.Effects CcUtils.Python.Effects.Trace
  CcUtils.Cnudie.Retrieve CcUtils.Python

inductive Answer (ω : Type)
  | descriptor (d : ComponentDescriptor)
  | none
  | writeBack (wb : ω)

/-- A `ComponentDescriptorLookupById` the composite combines: its calls, its answer and the state
of the caches it leaves; an exception it raises ends its trace. -/
abbrev Lookup (σ κ ω : Type) :=
  ComponentIdentity → Option OciRepositoryContext → σ → Trace κ (Answer ω × σ)

structure CompositeLookup (σ κ ω : Type) where
  lookups : List (Lookup σ κ ω)
  defaultCtxRepo : Option OciRepositoryContext
  defaultAbsentOk : Bool

section Loop

variable {σ κ ω : Type} (lower : String → String)
  (apply : ω → ComponentIdentity → ComponentDescriptor → σ → Except PyExc σ)
  (id : ComponentIdentity) (ctx : Option OciRepositoryContext)

def tryLookup (l : Lookup σ κ ω) (s : σ) : Trace κ (Answer ω × σ) :=
  (l id ctx s).tryExcept ociImageNotFound (.none, s)

def runWritebacks (d : ComponentDescriptor) : List ω → σ → σ × Option PyExc
  | [], s => (s, none)
  | wb :: wbs, s =>
    match apply wb id d s with
    | .ok s => runWritebacks d wbs s
    | .error e => (s, some e)

def loop : List (Lookup σ κ ω) → List ω → σ → Trace κ (Option ComponentDescriptor) × σ
  | [], _, s => (pure none, s)
  | l :: ls, wbs, s =>
    let t := tryLookup id ctx l s
    match t.result with
    | .error h => (⟨t.calls, .error h⟩, s)
    | .ok (.descriptor d, s) =>
      match runWritebacks apply id d wbs s with
      | (s, none) => (⟨t.calls, .ok (some d)⟩, s)
      | (s, some e) => (⟨t.calls, .error (.raised e)⟩, s)
    | .ok (.none, s) =>
      let r := loop ls wbs s
      (⟨t.calls ++ r.1.calls, r.1.result⟩, r.2)
    | .ok (.writeBack wb, s) =>
      let r := loop ls (wbs ++ [wb]) s
      (⟨t.calls ++ r.1.calls, r.1.result⟩, r.2)

def notFound (absentOk : Bool) : Trace κ (Option ComponentDescriptor) :=
  if absentOk then pure none
  else match ctx with
    | some ctx => raise ⟨ociImageNotFound, componentVersionOciRef lower ctx id⟩
    | none => raise ⟨.attributeError,
        "\x27NoneType\x27 object has no attribute \x27component_version_oci_ref\x27"⟩

def misses : List (Lookup σ κ ω) → σ → Option (List κ × List ω × σ)
  | [], s => some ([], [], s)
  | l :: ls, s =>
    let t := tryLookup id ctx l s
    match t.result with
    | .ok (.none, s) => (misses ls s).map fun r => (t.calls ++ r.1, r.2.1, r.2.2)
    | .ok (.writeBack wb, s) => (misses ls s).map fun r => (t.calls ++ r.1, wb :: r.2.1, r.2.2)
    | _ => none

end Loop

/-- `lookup(component_id, ctx_repo, absent_ok)`; an argument the call leaves out is `none`
and takes its default. -/
def CompositeLookup.lookup {σ κ ω : Type} (lower : String → String)
    (apply : ω → ComponentIdentity → ComponentDescriptor → σ → Except PyExc σ)
    (c : CompositeLookup σ κ ω) (id : ComponentIdentity)
    (ctxRepo : Option (Option OciRepositoryContext)) (absentOk : Option Bool) (s : σ) :
    Trace κ (Option ComponentDescriptor) × σ :=
  let ctx := ctxRepo.getD c.defaultCtxRepo
  let r := loop apply id ctx c.lookups [] s
  (r.1 >>= fun
    | some d => pure (some d)
    | none => notFound lower id ctx (absentOk.getD c.defaultAbsentOk), r.2)

section Steps

variable {σ κ ω : Type} {apply : ω → ComponentIdentity → ComponentDescriptor → σ → Except PyExc σ}
  {id : ComponentIdentity} {ctx : Option OciRepositoryContext} {l : Lookup σ κ ω}
  {s s' : σ}

theorem runWritebacks_eq_none_iff (d : ComponentDescriptor) :
    ∀ (wbs : List ω) (s s' : σ), runWritebacks apply id d wbs s = (s', none) ↔
      wbs.foldlM (fun s wb => apply wb id d s) s = .ok s'
  | [], s, s' => by simp [runWritebacks, pure, Except.pure, eq_comm]
  | wb :: wbs, s, s' => by
    cases h : apply wb id d s with
    | ok s₁ => simpa [runWritebacks, h] using runWritebacks_eq_none_iff d wbs s₁ s'
    | error e => simp only [runWritebacks, h, List.foldlM_cons]; exact ⟨nofun, nofun⟩

theorem loop_cons_none {ls : List (Lookup σ κ ω)} {wbs : List ω}
    (h : (tryLookup id ctx l s).result = .ok (.none, s')) :
    loop apply id ctx (l :: ls) wbs s =
      (⟨(tryLookup id ctx l s).calls ++ (loop apply id ctx ls wbs s').1.calls,
        (loop apply id ctx ls wbs s').1.result⟩, (loop apply id ctx ls wbs s').2) := by
  simp only [loop, h]

theorem loop_cons_writeBack {ls : List (Lookup σ κ ω)} {wbs : List ω} {wb : ω}
    (h : (tryLookup id ctx l s).result = .ok (.writeBack wb, s')) :
    loop apply id ctx (l :: ls) wbs s =
      (⟨(tryLookup id ctx l s).calls ++ (loop apply id ctx ls (wbs ++ [wb]) s').1.calls,
        (loop apply id ctx ls (wbs ++ [wb]) s').1.result⟩, (loop apply id ctx ls (wbs ++ [wb]) s').2) := by
  simp only [loop, h]

theorem loop_cons_descriptor {ls : List (Lookup σ κ ω)} {wbs : List ω} {d : ComponentDescriptor}
    (h : (tryLookup id ctx l s).result = .ok (.descriptor d, s')) :
    loop apply id ctx (l :: ls) wbs s =
      (⟨(tryLookup id ctx l s).calls,
        (runWritebacks apply id d wbs s').2.elim (.ok (some d)) fun e => .error (.raised e)⟩,
        (runWritebacks apply id d wbs s').1) := by
  simp only [loop, h]
  split <;> simp_all

theorem loop_append_of_misses (rest : List (Lookup σ κ ω)) :
    ∀ {pre : List (Lookup σ κ ω)} {s s' : σ} {calls : List κ} {wbs : List ω} (wbs₀ : List ω),
      misses id ctx pre s = some (calls, wbs, s') →
      loop apply id ctx (pre ++ rest) wbs₀ s =
        (⟨calls ++ (loop apply id ctx rest (wbs₀ ++ wbs) s').1.calls,
          (loop apply id ctx rest (wbs₀ ++ wbs) s').1.result⟩,
          (loop apply id ctx rest (wbs₀ ++ wbs) s').2)
  | [], s, s', calls, wbs, wbs₀, h => by
    obtain ⟨rfl, rfl, rfl⟩ : [] = calls ∧ [] = wbs ∧ s = s' := by simpa [misses] using h
    simp only [List.nil_append, List.append_nil]
  | l :: pre, s, s', calls, wbs, wbs₀, h => by
    simp only [misses] at h
    split at h
    · rename_i s₁ ht
      obtain ⟨⟨c, w, s₂⟩, hm, heq⟩ := Option.map_eq_some'.mp h
      cases heq
      rw [List.cons_append, loop_cons_none ht, loop_append_of_misses rest wbs₀ hm,
        List.append_assoc]
    · rename_i wb s₁ ht
      obtain ⟨⟨c, w, s₂⟩, hm, heq⟩ := Option.map_eq_some'.mp h
      cases heq
      rw [List.cons_append, loop_cons_writeBack ht, loop_append_of_misses rest _ hm,
        List.append_assoc, List.append_assoc, List.singleton_append]
    · cases h

end Steps

section Lookup

variable {σ κ ω : Type} (lower : String → String)
  (apply : ω → ComponentIdentity → ComponentDescriptor → σ → Except PyExc σ)
  (c : CompositeLookup σ κ ω) (id : ComponentIdentity)
  (ctxRepo : Option (Option OciRepositoryContext)) (absentOk : Option Bool) (s : σ)

theorem lookup_of_loop_some {calls : List κ} {d : ComponentDescriptor} {s' : σ}
    (h : loop apply id (ctxRepo.getD c.defaultCtxRepo) c.lookups [] s =
      (⟨calls, .ok (some d)⟩, s')) :
    c.lookup lower apply id ctxRepo absentOk s = (⟨calls, .ok (some d)⟩, s') := by
  simp only [CompositeLookup.lookup, h, bind_of_ok (show (⟨calls, .ok (some d)⟩ :
    Trace κ (Option ComponentDescriptor)).result = .ok (some d) from rfl)]
  simp

theorem lookup_found {pre post : List (Lookup σ κ ω)} {l : Lookup σ κ ω} {calls : List κ}
    {wbs : List ω} {s₁ s₂ : σ} {d : ComponentDescriptor} (hl : c.lookups = pre ++ l :: post)
    (hpre : misses id (ctxRepo.getD c.defaultCtxRepo) pre s = some (calls, wbs, s₁))
    (hd : (tryLookup id (ctxRepo.getD c.defaultCtxRepo) l s₁).result = .ok (.descriptor d, s₂)) :
    c.lookup lower apply id ctxRepo absentOk s =
      (⟨calls ++ (tryLookup id (ctxRepo.getD c.defaultCtxRepo) l s₁).calls,
        (runWritebacks apply id d wbs s₂).2.elim (.ok (some d)) fun e => .error (.raised e)⟩,
        (runWritebacks apply id d wbs s₂).1) := by
  have hloop : loop apply id _ (pre ++ l :: post) [] s = _ :=
    loop_append_of_misses (l :: post) [] hpre
  rw [← hl, List.nil_append, loop_cons_descriptor hd] at hloop
  cases hw : (runWritebacks apply id d wbs s₂).2 with
  | none =>
    rw [hw] at hloop
    exact lookup_of_loop_some lower apply c id ctxRepo absentOk s hloop
  | some e =>
    rw [hw] at hloop
    have herr : (⟨calls ++ (tryLookup id (ctxRepo.getD c.defaultCtxRepo) l s₁).calls,
        .error (.raised e)⟩ : Trace κ (Option ComponentDescriptor)).result = .error (.raised e) :=
      rfl
    simp only [CompositeLookup.lookup, hloop, bind_of_error herr, hw, Option.elim_some]

@[simp] theorem notFound_calls (absentOk : Bool) (ctx : Option OciRepositoryContext) :
    (notFound lower id ctx absentOk : Trace κ (Option ComponentDescriptor)).calls = [] := by
  unfold notFound
  split
  · rfl
  · split <;> rfl

theorem lookup_all_miss {calls : List κ} {wbs : List ω} {s₁ : σ}
    (h : misses id (ctxRepo.getD c.defaultCtxRepo) c.lookups s = some (calls, wbs, s₁)) :
    c.lookup lower apply id ctxRepo absentOk s =
      (⟨calls, (notFound lower id (ctxRepo.getD c.defaultCtxRepo) (absentOk.getD c.defaultAbsentOk) :
        Trace κ (Option ComponentDescriptor)).result⟩, s₁) := by
  have hloop : loop apply id _ (c.lookups ++ []) [] s = _ := loop_append_of_misses [] [] h
  rw [List.append_nil] at hloop
  have hnone : (⟨calls, .ok none⟩ : Trace κ (Option ComponentDescriptor)).result = .ok none := rfl
  simp only [CompositeLookup.lookup, hloop, loop, List.append_nil, pure_calls, pure_result]
  rw [bind_of_ok hnone, notFound_calls, List.append_nil]

theorem notFound_result (absentOk : Bool) (ctx : Option OciRepositoryContext) :
    (notFound lower id ctx absentOk : Trace κ (Option ComponentDescriptor)).result =
      if absentOk = true then .ok none
      else ctx.elim (.error (.raised ⟨.attributeError,
          "\x27NoneType\x27 object has no attribute \x27component_version_oci_ref\x27"⟩))
        fun ctx => .error (.raised ⟨ociImageNotFound, componentVersionOciRef lower ctx id⟩) := by
  cases absentOk <;> cases ctx <;> rfl

theorem composite_lookup_found_or_not_found (lower : String → String)
    (apply : ω → ComponentIdentity → ComponentDescriptor → σ → Except PyExc σ)
    (c : CompositeLookup σ κ ω) (id : ComponentIdentity)
    (ctxRepo : Option (Option OciRepositoryContext)) (absentOk : Option Bool) (s : σ) :
    (∀ pre l post calls wbs s₁ d s₂, c.lookups = pre ++ l :: post →
      misses id (ctxRepo.getD c.defaultCtxRepo) pre s = some (calls, wbs, s₁) →
      (tryLookup id (ctxRepo.getD c.defaultCtxRepo) l s₁).result = .ok (.descriptor d, s₂) →
      c.lookup lower apply id ctxRepo absentOk s =
        (⟨calls ++ (tryLookup id (ctxRepo.getD c.defaultCtxRepo) l s₁).calls,
          (runWritebacks apply id d wbs s₂).2.elim (.ok (some d)) fun e => .error (.raised e)⟩,
          (runWritebacks apply id d wbs s₂).1) ∧
      ∀ s', runWritebacks apply id d wbs s₂ = (s', none) ↔
        wbs.foldlM (fun s wb => apply wb id d s) s₂ = .ok s') ∧
    (∀ calls wbs s₁, misses id (ctxRepo.getD c.defaultCtxRepo) c.lookups s = some (calls, wbs, s₁) →
      c.lookup lower apply id ctxRepo absentOk s =
        (⟨calls, if absentOk.getD c.defaultAbsentOk = true then .ok none
          else (ctxRepo.getD c.defaultCtxRepo).elim
            (.error (.raised ⟨.attributeError,
              "\x27NoneType\x27 object has no attribute \x27component_version_oci_ref\x27"⟩))
            fun ctx => .error (.raised ⟨ociImageNotFound, componentVersionOciRef lower ctx id⟩)⟩, s₁)) :=
  ⟨fun _ _ _ _ _ _ _ _ hl hpre hd => ⟨lookup_found lower apply c id ctxRepo absentOk s hl hpre hd,
      fun _ => runWritebacks_eq_none_iff _ _ _ _⟩,
    fun _ _ _ h => by rw [lookup_all_miss lower apply c id ctxRepo absentOk s h, notFound_result]⟩

def cacheMiss : Lookup Nat Unit Unit := fun _ _ s => pure (.writeBack (), s)

def serviceMiss : Lookup Nat Unit Unit := fun _ _ s => pure (.none, s)

def countWriteback : Unit → ComponentIdentity → ComponentDescriptor → Nat → Except PyExc Nat :=
  fun _ _ _ n => .ok (n + 1)

def missingEverywhere : CompositeLookup Nat Unit Unit := ⟨[cacheMiss, serviceMiss], none, true⟩

theorem miss_without_ctx_raises_attribute_error :
    missingEverywhere.lookup Str.asciiLower countWriteback ⟨"example.org/component", "1.0.0"⟩ none (some false) 0 =
      (⟨[], .error (.raised ⟨.attributeError,
        "\x27NoneType\x27 object has no attribute \x27component_version_oci_ref\x27"⟩)⟩, 0) :=
  (composite_lookup_found_or_not_found Str.asciiLower countWriteback missingEverywhere
    ⟨"example.org/component", "1.0.0"⟩ none (some false) 0).2 [] [()] 0 rfl

end Lookup

def toAnswer : LookupResult → Answer Layer
  | .descriptor d => .descriptor d
  | .none => .none
  | .writeBack wb => .writeBack wb

def layerAsLookup (lower : String → String) (mapping : Option MappingConfig) (layer : Layer) :
    Lookup CacheState Call Layer :=
  fun id ctx s => (layerLookup lower mapping id s ctx layer).mapResult fun r => (toAnswer r.1, r.2)

def layerWriteback (wb : Layer) (id : ComponentIdentity) (d : ComponentDescriptor)
    (s : CacheState) : Except PyExc CacheState :=
  writeback id s d wb

section Default

variable (lower : String → String) (mapping : Option MappingConfig) (id : ComponentIdentity)
  (ctx : Option OciRepositoryContext)

theorem tryLookup_layerAsLookup (layer : Layer) (s : CacheState) :
    tryLookup id ctx (layerAsLookup lower mapping layer) s =
      ((layerLookup lower mapping id s ctx layer).tryExcept ociImageNotFound (.none, s)).mapResult
        fun r => (toAnswer r.1, r.2) :=
  tryExcept_mapResult (fun r : LookupResult × CacheState => (toAnswer r.1, r.2))
    (layerLookup lower mapping id s ctx layer) ociImageNotFound (.none, s)

theorem applyWritebacks_eq_runWritebacks (d : ComponentDescriptor) :
    ∀ (wbs : List Layer) (s : CacheState),
      applyWritebacks id d wbs s = runWritebacks layerWriteback id d wbs s
  | [], _ => rfl
  | wb :: wbs, s => by
    cases h : writeback id s d wb with
    | ok s' =>
      simp only [applyWritebacks, runWritebacks, layerWriteback, h]
      exact applyWritebacks_eq_runWritebacks d wbs s'
    | error e => simp only [applyWritebacks, runWritebacks, layerWriteback, h]

theorem compositeLoop_eq_loop : ∀ (layers wbs : List Layer) (s : CacheState),
    compositeLoop lower mapping id ctx layers wbs s =
      loop layerWriteback id ctx (layers.map (layerAsLookup lower mapping)) wbs s
  | [], _, _ => rfl
  | layer :: layers, wbs, s => by
    simp only [compositeLoop, List.map_cons, loop, tryLookup_layerAsLookup, mapResult]
    cases h : ((layerLookup lower mapping id s ctx layer).tryExcept ociImageNotFound (.none, s)).result with
    | error e => rfl
    | ok p =>
      obtain ⟨r, s'⟩ := p
      cases r with
      | descriptor d =>
        simp only [Except.map, toAnswer, applyWritebacks_eq_runWritebacks]
        rcases runWritebacks layerWriteback id d wbs s' with ⟨_, _ | _⟩ <;> rfl
      | none => simp only [Except.map, toAnswer, compositeLoop_eq_loop]
      | writeBack wb => simp only [Except.map, toAnswer, compositeLoop_eq_loop]

end Default

end CcUtils.Cnudie.Composite
