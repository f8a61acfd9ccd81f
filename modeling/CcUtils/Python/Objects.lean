import Mathlib.Data.List.Basic
import CcUtils.Python.Exceptions

namespace CcUtils.Python.Objects

open CcUtils.Python.Exceptions

inductive Value
  | str (s : String)
  | obj (addr : Nat)
  deriving DecidableEq, Repr

/-- A mutable object: a list, or a dict as its items in insertion order. The keys of the
modelled dicts are strings. -/
inductive Obj
  | list (items : List Value)
  | dict (items : List (String × Value))
  deriving DecidableEq, Repr

structure Heap where
  objects : List Obj
  deriving DecidableEq, Repr

/-- Python code over the heap: it returns or raises, and the heap it leaves stays either way. -/
abbrev Py := EStateM PyExc Heap

namespace Heap

def read (h : Heap) (addr : Nat) : Option Obj := h.objects[addr]?

def write (h : Heap) (addr : Nat) (o : Obj) : Heap := ⟨h.objects.set addr o⟩

def push (h : Heap) (o : Obj) : Heap := ⟨h.objects ++ [o]⟩

def isDict (h : Heap) : Value → Bool
  | .obj addr => match h.read addr with
    | some (.dict _) => true
    | _ => false
  | .str _ => false

def typeName (h : Heap) : Value → String
  | .obj addr => match h.read addr with
    | some (.list _) => "list"
    | _ => "dict"
  | .str _ => "str"

theorem lt_of_read_eq_some {h : Heap} {addr : Nat} {o : Obj} (hr : h.read addr = some o) :
    addr < h.objects.length :=
  (List.getElem?_eq_some_iff.mp hr).1

@[simp] theorem length_write (h : Heap) (addr : Nat) (o : Obj) :
    (h.write addr o).objects.length = h.objects.length :=
  List.length_set _ _ _

@[simp] theorem length_push (h : Heap) (o : Obj) :
    (h.push o).objects.length = h.objects.length + 1 := by
  simp [push]

theorem read_write_self {h : Heap} {addr : Nat} (hlt : addr < h.objects.length) (o : Obj) :
    (h.write addr o).read addr = some o :=
  List.getElem?_set_self hlt

theorem read_write_ne (h : Heap) {addr b : Nat} (o : Obj) (hne : b ≠ addr) :
    (h.write addr o).read b = h.read b :=
  List.getElem?_set_ne (Ne.symm hne)

theorem read_write {h : Heap} {addr : Nat} (hlt : addr < h.objects.length) (o : Obj) (b : Nat) :
    (h.write addr o).read b = if b = addr then some o else h.read b := by
  split
  · subst b
    exact read_write_self hlt o
  · exact read_write_ne h o ‹_›

@[simp] theorem read_push_length (h : Heap) (o : Obj) : (h.push o).read h.objects.length = some o := by
  simp [push, read]

theorem read_push_of_lt {h : Heap} {addr : Nat} (hlt : addr < h.objects.length) (o : Obj) :
    (h.push o).read addr = h.read addr :=
  List.getElem?_append_left hlt

theorem isDict_of_read {h : Heap} {addr : Nat} {items : List (String × Value)}
    (hr : h.read addr = some (.dict items)) : h.isDict (.obj addr) = true := by
  simp [isDict, hr]

end Heap

def alloc (o : Obj) : Py Nat := fun h => .ok h.objects.length (h.push o)

def emptyPopitem : PyExc := ⟨.keyError, "popitem(): dictionary is empty"⟩

def popitem (v : Value) : Py (String × Value) := fun h =>
  match v with
  | .obj addr =>
    match h.read addr with
    | some (.dict items) =>
      match items.getLast? with
      | some item => .ok item (h.write addr (.dict items.dropLast))
      | none => .error emptyPopitem h
    | _ => .error ⟨.attributeError, "\x27list\x27 object has no attribute \x27popitem\x27"⟩ h
  | .str _ => .error ⟨.attributeError, "\x27str\x27 object has no attribute \x27popitem\x27"⟩ h

def hashKey (k : Value) : Py String := fun h =>
  match k with
  | .str s => .ok s h
  | .obj _ => .error ⟨.typeError, "unhashable type: \x27" ++ h.typeName k ++ "\x27"⟩ h

def setItem {ν : Type} : List (String × ν) → String → ν → List (String × ν)
  | [], k, v => [(k, v)]
  | e :: items, k, v => if e.1 = k then (k, v) :: items else e :: setItem items k v

def pyDict {ν : Type} (entries : List (String × ν)) : List (String × ν) :=
  entries.foldl (fun items e => setItem items e.1 e.2) []

def dictOf (pairs : List (Value × Value)) : Py Value := do
  let items ← pairs.foldlM (fun items p => do return setItem items (← hashKey p.1) p.2) []
  return .obj (← alloc (.dict items))

section Run

variable {α β : Type} {h h' : Heap}

theorem bind_ok {x : Py α} {f : α → Py β} {a : α} (hx : x h = .ok a h') :
    (x >>= f) h = f a h' := by
  show EStateM.bind x f h = _
  simp only [EStateM.bind, hx]

theorem bind_error {x : Py α} {f : α → Py β} {e : PyExc} (hx : x h = .error e h') :
    (x >>= f) h = .error e h' := by
  show EStateM.bind x f h = _
  simp only [EStateM.bind, hx]

@[simp] theorem pure_apply (a : α) : (pure a : Py α) h = .ok a h := rfl

@[simp] theorem get_apply : (get : Py Heap) h = .ok h h := rfl

@[simp] theorem alloc_apply (o : Obj) : alloc o h = .ok h.objects.length (h.push o) := rfl

theorem popitem_of_read {addr : Nat} {items : List (String × Value)} {e : String × Value}
    (hr : h.read addr = some (.dict (items ++ [e]))) :
    popitem (.obj addr) h = .ok e (h.write addr (.dict items)) := by
  simp [popitem, hr]

theorem popitem_of_read_empty {addr : Nat} (hr : h.read addr = some (.dict [])) :
    popitem (.obj addr) h = .error emptyPopitem h := by
  simp [popitem, hr]

@[simp] theorem hashKey_str (s : String) : hashKey (.str s) h = .ok s h := rfl

theorem dictOf_str (entries : List (String × Value)) :
    dictOf (entries.map fun e => (.str e.1, e.2)) h =
      .ok (.obj h.objects.length) (h.push (.dict (pyDict entries))) := by
  have hfold : ∀ (items : List (String × Value)) (h : Heap),
      ((entries.map fun e => (Value.str e.1, e.2)).foldlM
          (fun items p => do return setItem items (← hashKey p.1) p.2) items : Py _) h =
        .ok (entries.foldl (fun items e => setItem items e.1 e.2) items) h := by
    induction entries with
    | nil => intro items h; rfl
    | cons e entries ih =>
      intro items h
      rw [List.map_cons, List.foldlM_cons]
      exact ih _ h
  rw [dictOf, bind_ok (hfold [] h)]
  rfl

end Run

theorem lookup_cons_ne {ν : Type} {k k' : String} (v : ν) (items : List (String × ν)) (hk : k' ≠ k) :
    ((k, v) :: items).lookup k' = items.lookup k' := by
  simp [List.lookup_cons, beq_false_of_ne hk]

theorem lookup_setItem {ν : Type} (k k' : String) (v : ν) :
    ∀ items : List (String × ν),
      (setItem items k v).lookup k' = if k' = k then some v else items.lookup k'
  | [] => by
    by_cases hk : k' = k
    · simp [setItem, hk]
    · simp [setItem, hk, lookup_cons_ne _ _ hk]
  | (k₀, v₀) :: items => by
    by_cases h₀ : k₀ = k
    · subst h₀
      by_cases hk : k' = k₀
      · simp [setItem, hk]
      · simp [setItem, hk, lookup_cons_ne _ _ hk]
    · rw [setItem, if_neg h₀]
      by_cases hk : k' = k₀
      · subst hk
        simp [h₀]
      · simp only [lookup_cons_ne _ _ hk, lookup_setItem k k' v items]

theorem lookup_pyDict {ν : Type} (entries : List (String × ν)) (k : String) :
    (pyDict entries).lookup k = entries.reverse.lookup k := by
  suffices ∀ items, (entries.foldl (fun items e => setItem items e.1 e.2) items).lookup k =
      (entries.reverse.lookup k).or (items.lookup k) by
    simpa using this []
  induction entries with
  | nil => simp
  | cons e entries ih =>
    intro items
    rw [List.foldl_cons, ih, lookup_setItem, List.reverse_cons, List.lookup_append, Option.or_assoc]
    obtain ⟨k₀, v₀⟩ := e
    by_cases hk : k = k₀
    · simp [hk]
    · simp [hk, lookup_cons_ne _ _ hk]

theorem mem_keys_setItem {ν : Type} (k k' : String) (v : ν) :
    ∀ items : List (String × ν),
      k' ∈ (setItem items k v).map Prod.fst ↔ k' = k ∨ k' ∈ items.map Prod.fst
  | [] => by simp [setItem]
  | e :: items => by
    rw [setItem]
    split
    · rename_i he
      simp [← he]
    · simp only [List.map_cons, List.mem_cons, mem_keys_setItem k k' v items]
      tauto

theorem nodup_keys_setItem {ν : Type} (k : String) (v : ν) :
    ∀ items : List (String × ν), (items.map Prod.fst).Nodup →
      ((setItem items k v).map Prod.fst).Nodup
  | [], _ => by simp [setItem]
  | e :: items, h => by
    rw [setItem]
    split
    · rename_i he
      simpa [← he] using h
    · rename_i hne
      rw [List.map_cons, List.nodup_cons] at h ⊢
      exact ⟨fun hm => ((mem_keys_setItem k _ v items).mp hm).elim hne h.1,
        nodup_keys_setItem k v items h.2⟩

theorem keys_pyDict {ν : Type} (entries : List (String × ν)) :
    ((pyDict entries).map Prod.fst).Nodup ∧
      ∀ k, k ∈ (pyDict entries).map Prod.fst ↔ k ∈ entries.map Prod.fst := by
  suffices ∀ items : List (String × ν), (items.map Prod.fst).Nodup →
      ((entries.foldl (fun items e => setItem items e.1 e.2) items).map Prod.fst).Nodup ∧
      ∀ k, k ∈ (entries.foldl (fun items e => setItem items e.1 e.2) items).map Prod.fst ↔
        k ∈ items.map Prod.fst ∨ k ∈ entries.map Prod.fst by
    simpa using this [] List.nodup_nil
  induction entries with
  | nil => simp
  | cons e entries ih =>
    intro items h
    obtain ⟨hn, hm⟩ := ih _ (nodup_keys_setItem e.1 e.2 items h)
    refine ⟨hn, fun k => ?_⟩
    rw [List.foldl_cons, hm, mem_keys_setItem, List.map_cons, List.mem_cons]
    tauto

example : pyDict ([("a", .str "1"), ("b", .str "2"), ("a", .str "3")] : List (String × Value)) =
    [("a", .str "3"), ("b", .str "2")] := by decide

end CcUtils.Python.Objects
