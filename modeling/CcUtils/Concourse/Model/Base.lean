import Mathlib.Data.List.Forall2
import CcUtils.Python.Objects

namespace CcUtils.Concourse.Model.Base

open CcUtils.Python.Exceptions CcUtils.Python.Objects

def normalisePair (v : Value) : Py (Value × Value) := do
  if (← get).isDict v then
    let (k, w) ← popitem v
    return (.str k, w)
  else
    return (v, .obj (← alloc (.dict [])))

def appendPair (values : List (Value × Value)) (v : Value) : Py (List (Value × Value)) := do
  return values ++ [← normalisePair v]

def normaliseToDict (dictish : Value) : Py Value := do
  match dictish with
  | .str s => return .obj (← alloc (.dict [(s, .obj (← alloc (.dict [])))]))
  | .obj addr =>
    match (← get).read addr with
    | some (.list items) => dictOf (← items.foldlM appendPair [])
    | _ => return dictish

def objAddrs : List Value → List Nat :=
  List.filterMap fun
    | .obj a => some a
    | .str _ => none

@[simp] theorem objAddrs_nil : objAddrs [] = [] := rfl

@[simp] theorem objAddrs_str (s : String) (vs : List Value) :
    objAddrs (.str s :: vs) = objAddrs vs := rfl

@[simp] theorem objAddrs_obj (a : Nat) (vs : List Value) :
    objAddrs (.obj a :: vs) = a :: objAddrs vs := rfl

@[simp] theorem mem_objAddrs {a : Nat} : ∀ {vs : List Value}, a ∈ objAddrs vs ↔ .obj a ∈ vs
  | [] => by simp
  | .str s :: vs => by simp [mem_objAddrs]
  | .obj b :: vs => by simp [mem_objAddrs, eq_comm]

def SingleItemDicts (h : Heap) (items : List Value) : Prop :=
  ∀ a, .obj a ∈ items → ∃ e, h.read a = some (.dict [e])

def SmallDicts (h : Heap) (items : List Value) : Prop :=
  ∀ a, .obj a ∈ items → ∃ d, h.read a = some (.dict d) ∧ d.length ≤ 1

def Entry (h h' : Heap) : Value → String × Value → Prop
  | .str s, e => e.1 = s ∧ ∃ a, e.2 = .obj a ∧ h.objects.length ≤ a ∧ h'.read a = some (.dict [])
  | .obj a, e => h.read a = some (.dict [e])

section Run

variable {h h' : Heap}

theorem normalisePair_str (s : String) :
    normalisePair (.str s) h = .ok (.str s, .obj h.objects.length) (h.push (.dict [])) := rfl

theorem normalisePair_single {a : Nat} {e : String × Value} (hr : h.read a = some (.dict [e])) :
    normalisePair (.obj a) h = .ok (.str e.1, e.2) (h.write a (.dict [])) := by
  rw [normalisePair, bind_ok get_apply, Heap.isDict_of_read hr, if_pos rfl,
    bind_ok (popitem_of_read (show h.read a = some (.dict ([] ++ [e])) from hr))]
  rfl

theorem normalisePair_empty {a : Nat} (hr : h.read a = some (.dict [])) :
    normalisePair (.obj a) h = .error emptyPopitem h := by
  rw [normalisePair, bind_ok get_apply, Heap.isDict_of_read hr, if_pos rfl,
    bind_error (popitem_of_read_empty hr)]

theorem appendPair_ok {v : Value} {p : Value × Value} (values : List (Value × Value))
    (hp : normalisePair v h = .ok p h') : appendPair values v h = .ok (values ++ [p]) h' := by
  rw [appendPair, bind_ok hp]
  rfl

theorem normaliseToDict_list {l : Nat} {items : List Value} (hl : h.read l = some (.list items)) :
    normaliseToDict (.obj l) h = (items.foldlM appendPair [] >>= dictOf) h := by
  rw [normaliseToDict, bind_ok get_apply, hl]

theorem normaliseToDict_of_loop_error {l : Nat} {items : List Value} {e : PyExc}
    (hl : h.read l = some (.list items)) (herr : items.foldlM appendPair [] h = .error e h') :
    normaliseToDict (.obj l) h = .error e h' := by
  rw [normaliseToDict_list hl, bind_error herr]

theorem singleItemDicts_of_agree {h₁ : Heap} {vs : List Value}
    (hag : ∀ a, .obj a ∈ vs → h₁.read a = h.read a) (hs : SingleItemDicts h vs) :
    SingleItemDicts h₁ vs :=
  fun a ha => (hag a ha).symm ▸ hs a ha

theorem smallDicts_of_agree {h₁ : Heap} {vs : List Value}
    (hag : ∀ a, .obj a ∈ vs → h₁.read a = h.read a) (hs : SmallDicts h vs) :
    SmallDicts h₁ vs :=
  fun a ha => (hag a ha).symm ▸ hs a ha

theorem forall₂_entry_of_agree {h₁ : Heap} (hlen : h.objects.length ≤ h₁.objects.length)
    {vs : List Value} {es : List (String × Value)} (hag : ∀ a, .obj a ∈ vs → h₁.read a = h.read a)
    (hes : List.Forall₂ (Entry h₁ h') vs es) : List.Forall₂ (Entry h h') vs es := by
  induction hes with
  | nil => exact .nil
  | @cons v e vs es he _ ih =>
    refine .cons ?_ (ih fun a ha => hag a (List.mem_cons_of_mem _ ha))
    cases v with
    | str s => exact ⟨he.1, he.2.imp fun a ha => ⟨ha.1, hlen.trans ha.2.1, ha.2.2⟩⟩
    | obj a => exact (hag a (List.mem_cons_self _ _)).symm.trans he

theorem Entry.push {v : Value} {e : String × Value} (o : Obj) (he : Entry h h' v e) :
    Entry h (h'.push o) v e := by
  cases v with
  | str s =>
    obtain ⟨hs, a, ha, hle, hr⟩ := he
    exact ⟨hs, a, ha, hle, (Heap.read_push_of_lt (Heap.lt_of_read_eq_some hr) o).trans hr⟩
  | obj a => exact he

theorem foldlM_appendPair_ok : ∀ (items : List Value) (h : Heap) (values : List (Value × Value)),
    SingleItemDicts h items → (objAddrs items).Nodup →
    ∃ h' entries, items.foldlM appendPair values h =
        .ok (values ++ entries.map fun e => (.str e.1, e.2)) h' ∧
      List.Forall₂ (Entry h h') items entries ∧
      (∀ a < h.objects.length, h'.read a = if .obj a ∈ items then some (.dict []) else h.read a) ∧
      h.objects.length ≤ h'.objects.length
  | [], h, values, _, _ => ⟨h, [], by simp, .nil, fun a _ => by simp, le_rfl⟩
  | .str s :: vs, h, values, hs, hnd => by
    have hag : ∀ a, .obj a ∈ vs → (h.push (.dict [])).read a = h.read a := fun a ha => by
      obtain ⟨_, hr⟩ := hs a (List.mem_cons_of_mem _ ha)
      exact Heap.read_push_of_lt (Heap.lt_of_read_eq_some hr) _
    obtain ⟨h', entries, hrun, hes, hframe, hlen⟩ := foldlM_appendPair_ok vs _ _
      (singleItemDicts_of_agree hag fun a ha => hs a (List.mem_cons_of_mem _ ha))
      (by simpa using hnd)
    have hfresh := hframe h.objects.length (by simp)
    rw [Heap.read_push_length, ite_self] at hfresh
    refine ⟨h', (s, .obj h.objects.length) :: entries, ?_,
      .cons ⟨rfl, _, rfl, le_rfl, hfresh⟩ (forall₂_entry_of_agree (by simp) hag hes),
      fun a ha => ?_, by simp at hlen; omega⟩
    · rw [List.foldlM_cons, bind_ok (appendPair_ok _ (normalisePair_str s)), hrun]
      simp
    · rw [hframe a (by simp; omega), Heap.read_push_of_lt ha]
      simp
  | .obj b :: vs, h, values, hs, hnd => by
    obtain ⟨e, hb⟩ := hs b (List.mem_cons_self _ _)
    obtain ⟨hbvs, hnd⟩ := List.nodup_cons.mp hnd
    have hag : ∀ a, .obj a ∈ vs → (h.write b (.dict [])).read a = h.read a := fun a ha =>
      Heap.read_write_ne _ _ fun hab => hbvs (mem_objAddrs.mpr (hab ▸ ha))
    obtain ⟨h', entries, hrun, hes, hframe, hlen⟩ := foldlM_appendPair_ok vs _ _
      (singleItemDicts_of_agree hag fun a ha => hs a (List.mem_cons_of_mem _ ha)) hnd
    refine ⟨h', e :: entries, ?_, .cons hb (forall₂_entry_of_agree (by simp) hag hes),
      fun a ha => ?_, by simpa using hlen⟩
    · rw [List.foldlM_cons, bind_ok (appendPair_ok _ (normalisePair_single hb)), hrun]
      simp
    · rw [hframe a (by simpa using ha), Heap.read_write (Heap.lt_of_read_eq_some hb)]
      by_cases hab : a = b <;> simp [hab]

theorem foldlM_appendPair_emptyPopitem : ∀ (items : List Value) (h : Heap)
    (values : List (Value × Value)), SmallDicts h items →
    ((∃ a, .obj a ∈ items ∧ h.read a = some (.dict [])) ∨ ¬ (objAddrs items).Nodup) →
    ∃ h', items.foldlM appendPair values h = .error emptyPopitem h'
  | [], h, values, _, hcond => by simp at hcond
  | .str s :: vs, h, values, hs, hcond => by
    have hag : ∀ a, .obj a ∈ vs → (h.push (.dict [])).read a = h.read a := fun a ha => by
      obtain ⟨_, hr, -⟩ := hs a (List.mem_cons_of_mem _ ha)
      exact Heap.read_push_of_lt (Heap.lt_of_read_eq_some hr) _
    obtain ⟨h', hrun⟩ := foldlM_appendPair_emptyPopitem vs _ _
      (smallDicts_of_agree hag fun a ha => hs a (List.mem_cons_of_mem _ ha)) <| by
        refine hcond.imp (fun ⟨a, ha, hr⟩ => ?_) (by simpa using ·)
        have ha : .obj a ∈ vs := by simpa using ha
        exact ⟨a, ha, (hag a ha).trans hr⟩
    exact ⟨h', by rw [List.foldlM_cons, bind_ok (appendPair_ok _ (normalisePair_str s)), hrun]⟩
  | .obj b :: vs, h, values, hs, hcond => by
    obtain ⟨d, hb, hlen⟩ := hs b (List.mem_cons_self _ _)
    match d, hb, hlen with
    | [], hb, _ =>
      refine ⟨h, ?_⟩
      rw [List.foldlM_cons, appendPair, bind_error (bind_error (normalisePair_empty hb))]
    | [e], hb, _ =>
      have hread := Heap.read_write (Heap.lt_of_read_eq_some hb) (.dict [])
      obtain ⟨h', hrun⟩ := foldlM_appendPair_emptyPopitem vs _ _ (fun a ha => by
          rw [hread a]
          split
          · exact ⟨[], rfl, by simp⟩
          · exact hs a (List.mem_cons_of_mem _ ha)) <| by
        rcases hcond with ⟨a, ha, hr⟩ | hnd
        · have hab : a ≠ b := by rintro rfl; simp [hb] at hr
          have ha : .obj a ∈ vs := by simpa [hab] using ha
          exact .inl ⟨a, ha, by rw [hread a, if_neg hab, hr]⟩
        · rw [objAddrs_obj, List.nodup_cons, not_and_or, not_not] at hnd
          refine hnd.imp (fun hbvs => ?_) id
          have hbvs : .obj b ∈ vs := mem_objAddrs.mp hbvs
          exact ⟨b, hbvs, by rw [hread b, if_pos rfl]⟩
      exact ⟨h', by rw [List.foldlM_cons, bind_ok (appendPair_ok _ (normalisePair_single hb)), hrun]⟩
    | _ :: _ :: _, _, hlen => simp at hlen

end Run

theorem normalise_to_dict_empties_list_dicts :
    (∀ s h, normaliseToDict (.str s) h = .ok (.obj (h.objects.length + 1))
      ((h.push (.dict [])).push (.dict [(s, .obj h.objects.length)]))) ∧
    (∀ a d h, h.read a = some (.dict d) → normaliseToDict (.obj a) h = .ok (.obj a) h) ∧
    ∀ l items h, h.read l = some (.list items) → SingleItemDicts h items →
      ((objAddrs items).Nodup → ∃ r h' entries,
        normaliseToDict (.obj l) h = .ok (.obj r) h' ∧
        List.Forall₂ (Entry h h') items entries ∧
        h'.read r = some (.dict (pyDict entries)) ∧
        (∀ k, (pyDict entries).lookup k = entries.reverse.lookup k) ∧
        (∀ a < h.objects.length, h'.read a = if .obj a ∈ items then some (.dict []) else h.read a) ∧
        ((∃ a, .obj a ∈ items) → ∃ h'', normaliseToDict (.obj l) h' = .error emptyPopitem h'')) ∧
      (¬ (objAddrs items).Nodup → ∃ h', normaliseToDict (.obj l) h = .error emptyPopitem h') := by
  refine ⟨fun s h => ?_, fun a d h hr => ?_, fun l items h hl hs => ⟨fun hnd => ?_, fun hnd => ?_⟩⟩
  · rw [normaliseToDict, bind_ok (alloc_apply _), bind_ok (alloc_apply _), pure_apply,
      Heap.length_push]
  · rw [normaliseToDict, bind_ok get_apply, hr]
    rfl
  · obtain ⟨h₁, entries, hrun, hes, hframe, hlen⟩ := foldlM_appendPair_ok items h [] hs hnd
    have hold : ∀ a < h.objects.length, (h₁.push (.dict (pyDict entries))).read a =
        if .obj a ∈ items then some (.dict []) else h.read a := fun a ha => by
      rw [Heap.read_push_of_lt (by omega), hframe a ha]
    refine ⟨h₁.objects.length, _, entries, ?_, hes.imp fun _ _ => Entry.push _,
      Heap.read_push_length _ _, lookup_pyDict entries, hold, fun ⟨b, hb⟩ => ?_⟩
    · rw [normaliseToDict_list hl, bind_ok hrun, List.nil_append, dictOf_str]
    · -- every dict of the list is now empty, and the list is not one of its own dicts
      have hempty : ∀ a, .obj a ∈ items →
          (h₁.push (.dict (pyDict entries))).read a = some (.dict []) := fun a ha => by
        obtain ⟨_, he⟩ := hs a ha
        rw [hold a (Heap.lt_of_read_eq_some he), if_pos ha]
      have hnot : .obj l ∉ items := fun hm => by
        obtain ⟨_, he⟩ := hs l hm
        simp [hl] at he
      obtain ⟨h'', herr⟩ := foldlM_appendPair_emptyPopitem items _ []
        (fun a ha => ⟨[], hempty a ha, by simp⟩) (.inl ⟨b, hb, hempty b hb⟩)
      exact ⟨h'', normaliseToDict_of_loop_error
        (by rw [hold l (Heap.lt_of_read_eq_some hl), if_neg hnot, hl]) herr⟩
  · obtain ⟨h', herr⟩ := foldlM_appendPair_emptyPopitem items h []
      (fun a ha => (hs a ha).elim fun e he => ⟨[e], he, by simp⟩) (.inr hnd)
    exact ⟨h', normaliseToDict_of_loop_error hl herr⟩

def singleItemList : Heap := ⟨[.dict [("name", .str "value")], .list [.obj 0]]⟩

theorem single_item_list_normalised_twice :
    normaliseToDict (.obj 1) singleItemList =
        .ok (.obj 2) ⟨[.dict [], .list [.obj 0], .dict [("name", .str "value")]]⟩ ∧
      ∃ h'', normaliseToDict (.obj 1) ⟨[.dict [], .list [.obj 0], .dict [("name", .str "value")]]⟩ =
        .error emptyPopitem h'' := by
  have hfirst : normaliseToDict (.obj 1) singleItemList =
      .ok (.obj 2) ⟨[.dict [], .list [.obj 0], .dict [("name", .str "value")]]⟩ := rfl
  obtain ⟨r, h', -, hrun, -, -, -, -, hagain⟩ :=
    (normalise_to_dict_empties_list_dicts.2.2 1 [.obj 0] singleItemList rfl
      fun a ha => ⟨("name", .str "value"), by obtain rfl : a = 0 := (by simpa using ha); rfl⟩).1
      (by decide)
  rw [hfirst] at hrun
  cases hrun
  exact ⟨hfirst, hagain ⟨0, List.mem_singleton_self _⟩⟩

inductive RequiredPolicy
  | optional | required
  deriving DecidableEq, Repr

/-- An `AttributeSpec` over Python values `ν` whose `bool()` is `truthy`, its default `none`
for `None`. `__init__` refuses a truthy default under a policy other than `OPTIONAL`, so a
required attribute has none. -/
structure AttributeSpec (ν : Type) (truthy : ν → Bool) where
  name : String
  doc : String
  defaultValue : Option ν
  requiredPolicy : Option RequiredPolicy
  no_required_default : requiredPolicy = some .required → defaultValue.any truthy = false

namespace AttributeSpec

variable {ν : Type} {truthy : ν → Bool}

def new (truthy : ν → Bool) (name doc : String) (default : Option ν)
    (required : Option RequiredPolicy) : Except PyExc (AttributeSpec ν truthy) :=
  if h : default.any truthy && (required.isSome && required != some .optional) then
    .error ⟨.valueError, ""⟩
  else .ok ⟨name, doc, default, required, fun hr => by subst hr; simpa using h⟩

def optional (truthy : ν → Bool) (name doc : String) (default : Option ν) :
    Except PyExc (AttributeSpec ν truthy) :=
  new truthy name doc default (some .optional)

def required (truthy : ν → Bool) (name doc : String) : Except PyExc (AttributeSpec ν truthy) :=
  new truthy name doc none (some .required)

/-- `AttributeSpec.filter_attrs` over a sequence of attributes, drained. Without a policy it
yields every attribute, and the loop after the `else` branch still runs, yielding those whose
policy `is None` again. -/
def filterAttrs (attrs : List (AttributeSpec ν truthy)) (required : Option RequiredPolicy) :
    List (AttributeSpec ν truthy) :=
  (if required.isSome then [] else attrs) ++ attrs.filter (·.requiredPolicy == required)

def optionalAttrNames (attrs : List (AttributeSpec ν truthy)) : List String :=
  (filterAttrs attrs (some .optional)).map AttributeSpec.name

def defaultsDict (attrs : List (AttributeSpec ν truthy)) : List (String × Option ν) :=
  pyDict ((filterAttrs attrs (some .optional)).map fun attr => (attr.name, attr.defaultValue))

example : new id "n" "doc" (some true) (some .required) = .error ⟨.valueError, ""⟩ := rfl

theorem filterAttrs_some (attrs : List (AttributeSpec ν truthy)) (p : RequiredPolicy) :
    filterAttrs attrs (some p) = attrs.filter (·.requiredPolicy == some p) := rfl

theorem lookup_map_name_default (k : String) : ∀ l : List (AttributeSpec ν truthy),
    (l.map fun a => (a.name, a.defaultValue)).lookup k =
      ((l.filter (·.name == k)).head?).map (·.defaultValue)
  | [] => rfl
  | a :: l => by
    by_cases hk : a.name = k
    · subst hk
      rw [List.map_cons, List.lookup_cons_self]
      simp [List.filter_cons]
    · rw [List.map_cons, lookup_cons_ne _ _ (Ne.symm hk), lookup_map_name_default k l]
      simp [List.filter_cons, hk]

theorem defaults_dict_last_optional_default (attrs : List (AttributeSpec ν truthy)) :
    ((defaultsDict attrs).map Prod.fst).Nodup ∧
    (∀ k, k ∈ (defaultsDict attrs).map Prod.fst ↔ k ∈ optionalAttrNames attrs) ∧
    ∀ k, (defaultsDict attrs).lookup k =
      ((attrs.filter fun a => a.requiredPolicy = some .optional ∧ a.name = k).getLast?).map
        (·.defaultValue) := by
  obtain ⟨hnodup, hkeys⟩ := keys_pyDict
    ((filterAttrs attrs (some .optional)).map fun attr => (attr.name, attr.defaultValue))
  refine ⟨hnodup, fun k => by rw [defaultsDict, hkeys, List.map_map]; rfl, fun k => ?_⟩
  rw [defaultsDict, lookup_pyDict, ← List.map_reverse, lookup_map_name_default,
    List.filter_reverse, List.head?_reverse, filterAttrs_some, List.filter_filter]
  congr 2
  exact List.filter_congr fun a _ => by rw [Bool.eq_iff_iff]; simp [and_comm]

example : defaultsDict ([⟨"a", "", some 1, some .optional, nofun⟩,
      ⟨"b", "", none, some .required, fun _ => rfl⟩, ⟨"c", "", none, some .optional, nofun⟩,
      ⟨"a", "", some 2, some .optional, nofun⟩] : List (AttributeSpec Nat (· != 0))) =
    [("a", some 2), ("c", none)] := by decide

end AttributeSpec

end CcUtils.Concourse.Model.Base
