import Mathlib.Data.List.Sort

namespace CcUtils.Python.Sorted

variable {α κ : Type} [LinearOrder κ] (key : α → κ)

/-- `sorted(l, key=key)`: a stable sort, as insertion sort is. -/
def sortedBy (l : List α) : List α := l.insertionSort fun a b => key a ≤ key b

theorem mem_sortedBy {l : List α} {x : α} : x ∈ sortedBy key l ↔ x ∈ l := List.mem_insertionSort _

theorem sorted_sortedBy (l : List α) : (sortedBy key l).Sorted fun a b => key a ≤ key b := by
  haveI : IsTotal α fun a b => key a ≤ key b := ⟨fun _ _ => le_total _ _⟩
  haveI : IsTrans α fun a b => key a ≤ key b := ⟨fun _ _ _ => le_trans⟩
  exact List.sorted_insertionSort _ l

variable {key}

theorem le_of_getLast? {l : List α} (h : l.Sorted fun a b => key a ≤ key b) {g : α}
    (hg : l.getLast? = some g) {v : α} (hv : v ∈ l) : key v ≤ key g := by
  obtain ⟨init, rfl⟩ := List.getLast?_eq_some_iff.mp hg
  rcases List.mem_append.mp hv with hv | hv
  · exact (List.pairwise_append.mp h).2.2 v hv g (List.mem_singleton_self _)
  · rw [List.mem_singleton.mp hv]

theorem getLast?_sortedBy {l : List α} {g : α} (hg : (sortedBy key l).getLast? = some g) :
    g ∈ l ∧ ∀ v ∈ l, key v ≤ key g :=
  ⟨(mem_sortedBy key).mp (List.mem_of_getLast?_eq_some hg), fun _ hv =>
    le_of_getLast? (sorted_sortedBy key l) hg ((mem_sortedBy key).mpr hv)⟩

theorem getLast?_filter_sortedBy {l : List α} {p : α → Bool} {g : α}
    (hg : ((sortedBy key l).filter p).getLast? = some g) :
    g ∈ l ∧ p g = true ∧ ∀ v ∈ l, p v = true → key v ≤ key g := by
  have hmem := List.mem_filter.mp (List.mem_of_getLast?_eq_some hg)
  refine ⟨(mem_sortedBy key).mp hmem.1, hmem.2, fun v hv hp => ?_⟩
  exact le_of_getLast? ((sorted_sortedBy key l).filter p) hg
    (List.mem_filter.mpr ⟨(mem_sortedBy key).mpr hv, hp⟩)

theorem getLast?_filter_sortedBy_eq_none {l : List α} {p : α → Bool} :
    ((sortedBy key l).filter p).getLast? = none ↔ ∀ v ∈ l, p v = false := by
  simp only [List.getLast?_eq_none_iff, List.filter_eq_nil_iff, mem_sortedBy,
    Bool.not_eq_true]

end CcUtils.Python.Sorted
