import CcUtils.Cnudie.Retrieve
import CcUtils.Python.Sorted
import Mathlib.Data.List.Sort

namespace CcUtils.Cnudie.Components

open CcUtils.Python.Exceptions CcUtils.Python.Effects CcUtils.Python.Effects.Trace
  CcUtils.Python.Sorted CcUtils.Cnudie.Retrieve

def pyIndex (x : String) : List String → Except PyExc Nat
  | [] => .error ⟨.valueError, "\x27" ++ x ++ "\x27 is not in list"⟩
  | y :: ys => if y = x then .ok 0 else (· + 1) <$> pyIndex x ys

def lastSlice {α : Type} (l : List α) (n : Nat) : List α :=
  if n = 0 then l else l.drop (l.length - n)

theorem sorted_split {α κ : Type} [LinearOrder κ] {key : α → κ} {pre post : List α} {g : α}
    (h : (pre ++ g :: post).Sorted (fun a b => key a ≤ key b)) :
    (pre ++ [g]).Sorted (fun a b => key a ≤ key b) ∧ (∀ v ∈ pre ++ [g], key v ≤ key g) ∧
      ∀ v ∈ pre ++ g :: post, key v < key g → v ∈ pre ++ [g] := by
  rw [← List.singleton_append, ← List.append_assoc] at h
  obtain ⟨hpre, -, hpost⟩ := List.pairwise_append.mp h
  refine ⟨hpre, fun v hv => ?_, fun v hv hlt => ?_⟩
  · rcases List.mem_append.mp hv with hv | hv
    · exact (List.pairwise_append.mp hpre).2.2 v hv g (List.mem_singleton_self _)
    · rw [List.mem_singleton.mp hv]
  · rw [← List.singleton_append, ← List.append_assoc] at hv
    rcases List.mem_append.mp hv with hv | hv
    · exact hv
    · exact absurd (hpost g (by simp) v hv) (not_le.mpr hlt)

section Versions

variable {κ : Type} [LinearOrder κ] (parseToSemver : String → κ) (isPrerelease : String → Bool)

def releaseTags (versions : List String) (ignorePrereleaseVersions : Bool) : List String :=
  if ignorePrereleaseVersions then versions.filter (!isPrerelease ·) else versions

def greatestComponentVersions (versions : List String) (maxVersions : Nat)
    (greatestVersion : Option String) (ignorePrereleaseVersions : Bool) :
    Except PyExc (List String) :=
  if versions = [] then .ok []
  else
    let versions := (releaseTags isPrerelease versions ignorePrereleaseVersions).insertionSort
      fun a b => parseToSemver a ≤ parseToSemver b
    match greatestVersion.filter (· ≠ "") with
    | some greatest => pyIndex greatest versions >>= fun i =>
      .ok (lastSlice (versions.take (i + 1)) maxVersions)
    | none => .ok (lastSlice versions maxVersions)

theorem pyIndex_of_mem {x : String} : ∀ {l : List String}, x ∈ l →
    ∃ pre post, l = pre ++ x :: post ∧ x ∉ pre ∧ pyIndex x l = .ok pre.length
  | y :: ys, h => by
    by_cases hy : y = x
    · exact ⟨[], ys, by simp [hy], List.not_mem_nil _, by simp [pyIndex, hy]⟩
    · obtain ⟨pre, post, rfl, hpre, hi⟩ := pyIndex_of_mem ((List.mem_cons.mp h).resolve_left
        (Ne.symm hy))
      refine ⟨y :: pre, post, rfl, ?_, ?_⟩
      · simpa [Ne.symm hy] using hpre
      · simp [pyIndex, hy, hi, Functor.map, Except.map]

theorem greatest_versions_slice_all_at_zero (versions : List String) (maxVersions : Nat)
    (greatestVersion : Option String) (ignorePrereleaseVersions : Bool)
    (hgreatest : ∀ g, greatestVersion = some g →
      g ∈ releaseTags isPrerelease versions ignorePrereleaseVersions) :
    ∃ pre, greatestComponentVersions parseToSemver isPrerelease versions maxVersions
        greatestVersion ignorePrereleaseVersions = .ok (lastSlice pre maxVersions) ∧
      pre.Sorted (fun a b => parseToSemver a ≤ parseToSemver b) ∧
      (greatestVersion.filter (· ≠ "") = none →
        pre.Perm (releaseTags isPrerelease versions ignorePrereleaseVersions)) ∧
      ∀ g, greatestVersion.filter (· ≠ "") = some g → g ∈ pre ∧
        (∀ v ∈ pre, parseToSemver v ≤ parseToSemver g) ∧
        ∀ v ∈ releaseTags isPrerelease versions ignorePrereleaseVersions,
          parseToSemver v < parseToSemver g → v ∈ pre := by
  haveI : IsTotal String fun a b => parseToSemver a ≤ parseToSemver b := ⟨fun _ _ => le_total _ _⟩
  haveI : IsTrans String fun a b => parseToSemver a ≤ parseToSemver b := ⟨fun _ _ _ => le_trans⟩
  have hsorted := List.sorted_insertionSort (fun a b => parseToSemver a ≤ parseToSemver b)
    (releaseTags isPrerelease versions ignorePrereleaseVersions)
  have hperm := List.perm_insertionSort (fun a b => parseToSemver a ≤ parseToSemver b)
    (releaseTags isPrerelease versions ignorePrereleaseVersions)
  by_cases hv : versions = []
  · subst hv
    refine ⟨[], by simp [greatestComponentVersions, lastSlice], List.sorted_nil,
      fun _ => by simp [releaseTags], fun g hg => ?_⟩
    obtain ⟨hsome, -⟩ := Option.filter_eq_some.mp hg
    simpa [releaseTags] using hgreatest g hsome
  cases hg : greatestVersion.filter (· ≠ "") with
  | none =>
    exact ⟨_, by simp only [greatestComponentVersions, if_neg hv, hg], hsorted, fun _ => hperm,
      fun _ h => by cases h⟩
  | some g =>
    obtain ⟨hsome, -⟩ := Option.filter_eq_some.mp hg
    obtain ⟨pre, post, hsplit, -, hidx⟩ := pyIndex_of_mem (hperm.symm.subset (hgreatest g hsome))
    obtain ⟨hpre, hle, hlt⟩ := sorted_split (hsplit ▸ hsorted)
    refine ⟨pre ++ [g], ?_, hpre, nofun, fun g' hg' => ?_⟩
    · simp only [greatestComponentVersions, if_neg hv]
      rw [hg]
      dsimp only
      rw [hidx, hsplit]
      simp [List.take_append_eq_append_take, List.take_of_length_le (Nat.le_succ pre.length)]
    · obtain rfl : g = g' := Option.some.inj hg'
      exact ⟨by simp, hle, fun v hv hvg => hlt v (hsplit ▸ hperm.symm.subset hv) hvg⟩

def greatestVersionBefore (versions : List String) (componentVersion : String) : Option String :=
  ((sortedBy parseToSemver versions).filter
    fun v => decide (parseToSemver v < parseToSemver componentVersion)).getLast?

theorem greatest_version_before_is_greatest_below (versions : List String)
    (componentVersion : String) :
    (greatestVersionBefore parseToSemver versions componentVersion = none ↔
      ∀ v ∈ versions, ¬ parseToSemver v < parseToSemver componentVersion) ∧
    ∀ g, greatestVersionBefore parseToSemver versions componentVersion = some g →
      g ∈ versions ∧ parseToSemver g < parseToSemver componentVersion ∧
      ∀ v ∈ versions, parseToSemver v < parseToSemver componentVersion →
        parseToSemver v ≤ parseToSemver g := by
  refine ⟨?_, fun g hg => ?_⟩
  · simp only [greatestVersionBefore, getLast?_filter_sortedBy_eq_none, decide_eq_false_iff_not]
  · obtain ⟨hmem, hlt, hmax⟩ := getLast?_filter_sortedBy hg
    exact ⟨hmem, of_decide_eq_true hlt, fun v hv hvlt => hmax v hv (decide_eq_true hvlt)⟩

example : greatestVersionBefore
    (fun v => if v = "1.0.0" then 0 else if v = "1.1.0" then 1 else 2)
    ["2.0.0", "1.0.0", "1.1.0"] "2.0.0" = some "1.1.0" := by
  decide

end Versions

def threeTags : List String := ["1.0.0", "1.1.0", "2.0.0"]

def tableSemver (v : String) : Nat := if v = "1.0.0" then 0 else if v = "1.1.0" then 1 else 2

theorem zero_max_versions_returns_all :
    ∃ r, greatestComponentVersions tableSemver (fun _ => false) threeTags 0 none false = .ok r ∧
      r.length = 3 := by
  obtain ⟨pre, hres, -, hperm, -⟩ := greatest_versions_slice_all_at_zero tableSemver (fun _ => false)
    threeTags 0 none false nofun
  exact ⟨pre, hres, by simp [lastSlice, (hperm rfl).length_eq, releaseTags, threeTags]⟩

structure Component where
  name : String
  version : String
  componentReferences : List ComponentIdentity
  currentRepositoryCtx : Option OciRepositoryContext
  deriving DecidableEq, Repr

def Component.identity (c : Component) : ComponentIdentity := ⟨c.name, c.version⟩

abbrev ComponentLookup := ComponentIdentity → Option OciRepositoryContext → Except PyExc Component

inductive Event
  | lookup (id : ComponentIdentity) (ctxRepo : Option OciRepositoryContext)
  | yielded (component : Component)
  deriving DecidableEq, Repr

def visitReference (lookup : ComponentLookup)
    (resolve : Component → List ComponentIdentity → Trace Event (List ComponentIdentity))
    (component : Component) (visited : List ComponentIdentity) (cref : ComponentIdentity) :
    Trace Event (List ComponentIdentity) :=
  if cref ∈ visited then pure visited
  else
    emit (.lookup cref component.currentRepositoryCtx) >>= fun _ =>
    liftExcept (lookup cref component.currentRepositoryCtx) >>= fun resolved =>
    resolve resolved (visited ++ [cref])

/-- `resolve_component_dependencies`, its recursion bounded by `fuel`; the visited list it
shares with every recursive call is threaded through and returned. -/
def resolveComponentDependencies (lookup : ComponentLookup) :
    Nat → Component → List ComponentIdentity → Trace Event (List ComponentIdentity)
  | 0, _, _ => outOfFuel
  | fuel + 1, component, visited =>
    emit (.yielded component) >>= fun _ =>
    component.componentReferences.foldlM
      (visitReference lookup (resolveComponentDependencies lookup fuel) component) visited

def components (component : Component) (lookup : ComponentLookup) (fuel : Nat) :
    Trace Event Unit :=
  (resolveComponentDependencies lookup fuel component [component.identity]).mapResult
    fun _ => ()

def yields (events : List Event) : List Component :=
  events.filterMap fun | .yielded c => some c | _ => none

def lookups (events : List Event) : List ComponentIdentity :=
  events.filterMap fun | .lookup id _ => some id | _ => none

@[simp] theorem yields_nil : yields [] = [] := rfl

@[simp] theorem yields_append (l₁ l₂ : List Event) : yields (l₁ ++ l₂) = yields l₁ ++ yields l₂ :=
  List.filterMap_append _ _ _

@[simp] theorem yields_lookup (id : ComponentIdentity) (ctx : Option OciRepositoryContext)
    (l : List Event) : yields (.lookup id ctx :: l) = yields l := rfl

@[simp] theorem yields_yielded (c : Component) (l : List Event) :
    yields (.yielded c :: l) = c :: yields l := rfl

@[simp] theorem lookups_nil : lookups [] = [] := rfl

@[simp] theorem lookups_append (l₁ l₂ : List Event) :
    lookups (l₁ ++ l₂) = lookups l₁ ++ lookups l₂ :=
  List.filterMap_append _ _ _

@[simp] theorem lookups_lookup (id : ComponentIdentity) (ctx : Option OciRepositoryContext)
    (l : List Event) : lookups (.lookup id ctx :: l) = id :: lookups l := rfl

@[simp] theorem lookups_yielded (c : Component) (l : List Event) :
    lookups (.yielded c :: l) = lookups l := rfl

section Dfs

variable (graph : ComponentIdentity → Component)

inductive Reachable (root : Component) : ComponentIdentity → Prop
  | ref {id : ComponentIdentity} : id ∈ root.componentReferences → Reachable root id
  | step {id id' : ComponentIdentity} : Reachable root id →
      id' ∈ (graph id).componentReferences → Reachable root id'

/-- `DfsRefs visited refs order visited'`: a depth-first traversal of the references `refs`,
with the identities `visited` visited before it, visits the identities `order`, in pre-order,
and ends with `visited'` visited. -/
inductive DfsRefs : List ComponentIdentity → List ComponentIdentity → List ComponentIdentity →
    List ComponentIdentity → Prop
  | nil (visited : List ComponentIdentity) : DfsRefs visited [] [] visited
  | seen {visited refs order visited' : List ComponentIdentity} {id : ComponentIdentity} :
      id ∈ visited → DfsRefs visited refs order visited' →
      DfsRefs visited (id :: refs) order visited'
  | fresh {visited refs below after visited₁ visited₂ : List ComponentIdentity}
      {id : ComponentIdentity} :
      id ∉ visited → DfsRefs (visited ++ [id]) (graph id).componentReferences below visited₁ →
      DfsRefs visited₁ refs after visited₂ →
      DfsRefs visited (id :: refs) (id :: below ++ after) visited₂

variable {graph}

theorem DfsRefs.visited_eq {visited refs order visited' : List ComponentIdentity}
    (h : DfsRefs graph visited refs order visited') : visited' = visited ++ order := by
  induction h with
  | nil => simp
  | seen _ _ ih => exact ih
  | fresh _ _ _ ih₁ ih₂ => simp [ih₂, ih₁]

theorem DfsRefs.nodup {visited refs order visited' : List ComponentIdentity}
    (h : DfsRefs graph visited refs order visited') (hv : visited.Nodup) : visited'.Nodup := by
  induction h with
  | nil => exact hv
  | seen _ _ ih => exact ih hv
  | fresh hid _ _ ih₁ ih₂ =>
    exact ih₂ (ih₁ (List.nodup_append.mpr ⟨hv, List.nodup_singleton _,
      List.disjoint_singleton.mpr hid⟩))

theorem DfsRefs.closed {visited refs order visited' : List ComponentIdentity}
    (h : DfsRefs graph visited refs order visited') :
    (∀ id ∈ refs, id ∈ visited') ∧
      ∀ id ∈ order, ∀ r ∈ (graph id).componentReferences, r ∈ visited' := by
  induction h with
  | nil => simp
  | seen hid h ih =>
    exact ⟨List.forall_mem_cons.mpr ⟨by rw [h.visited_eq]; exact List.mem_append_left _ hid,
      ih.1⟩, ih.2⟩
  | @fresh visited refs below after visited₁ visited₂ id _ h₁ h₂ ih₁ ih₂ =>
    have hsub : ∀ x ∈ visited₁, x ∈ visited₂ := fun x hx => by
      rw [h₂.visited_eq]
      exact List.mem_append_left _ hx
    refine ⟨List.forall_mem_cons.mpr ⟨hsub _ ?_, ih₂.1⟩, fun x hx => ?_⟩
    · rw [h₁.visited_eq]
      simp
    · rcases List.mem_append.mp hx with hx | hx
      · rcases List.mem_cons.mp hx with rfl | hx
        · exact fun r hr => hsub _ (ih₁.1 r hr)
        · exact fun r hr => hsub _ (ih₁.2 _ hx r hr)
      · exact ih₂.2 _ hx

theorem DfsRefs.forall_mem {P : ComponentIdentity → Prop}
    (hP : ∀ id, P id → ∀ r ∈ (graph id).componentReferences, P r)
    {visited refs order visited' : List ComponentIdentity}
    (h : DfsRefs graph visited refs order visited') (hrefs : ∀ id ∈ refs, P id) :
    ∀ id ∈ order, P id := by
  induction h with
  | nil => simp
  | seen _ _ ih => exact ih fun id hid => hrefs id (List.mem_cons_of_mem _ hid)
  | fresh _ _ _ ih₁ ih₂ =>
    have hid := hrefs _ (List.mem_cons_self _ _)
    intro x hx
    rcases List.mem_append.mp hx with hx | hx
    · rcases List.mem_cons.mp hx with rfl | hx
      · exact hid
      · exact ih₁ (hP _ hid) x hx
    · exact ih₂ (fun id h => hrefs id (List.mem_cons_of_mem _ h)) x hx

theorem dfsRefs_reachable {root : Component} (hroot : graph root.identity = root)
    {order : List ComponentIdentity}
    (h : DfsRefs graph [root.identity] root.componentReferences order (root.identity :: order)) :
    (root.identity :: order).Nodup ∧
      ∀ id, id ∈ order ↔ Reachable graph root id ∧ id ≠ root.identity := by
  have hnodup := h.nodup (List.nodup_singleton _)
  have hclosed := h.closed
  have hreach : ∀ id, Reachable graph root id → id ∈ root.identity :: order := by
    intro id hr
    induction hr with
    | ref hid => exact hclosed.1 _ hid
    | @step id id' _ hid' ih =>
      rcases List.mem_cons.mp ih with rfl | hid
      · exact hclosed.1 _ (hroot ▸ hid')
      · exact hclosed.2 _ hid _ hid'
  refine ⟨hnodup, fun id => ⟨fun hid => ⟨h.forall_mem (fun _ hr _ hmem => .step hr hmem)
    (fun _ => .ref) id hid, fun he => (List.nodup_cons.mp hnodup).1 (he ▸ hid)⟩,
    fun ⟨hr, hne⟩ => (List.mem_cons.mp (hreach id hr)).resolve_left hne⟩⟩

end Dfs

section Run

variable {graph : ComponentIdentity → Component} {lookup : ComponentLookup}
  (hlookup : ∀ id ctx, lookup id ctx = .ok (graph id)) {U : List ComponentIdentity}
  (hU : ∀ id ∈ U, ∀ r ∈ (graph id).componentReferences, r ∈ U)

def TraversesDepthFirst (graph : ComponentIdentity → Component)
    (resolve : Component → List ComponentIdentity → Trace Event (List ComponentIdentity))
    (c : Component) (visited : List ComponentIdentity) : Prop :=
  ∃ order, DfsRefs graph visited c.componentReferences order (visited ++ order) ∧
    (resolve c visited).result = .ok (visited ++ order) ∧
    yields (resolve c visited).calls = c :: order.map graph ∧
    lookups (resolve c visited).calls = order

def VisitedWithin (U : List ComponentIdentity) (fuel : Nat) (visited : List ComponentIdentity) :
    Prop :=
  visited.Nodup ∧ (∀ v ∈ visited, v ∈ U) ∧ U.length < fuel + visited.length

include hlookup hU in
theorem foldlM_visitReference (resolve : Component → List ComponentIdentity →
      Trace Event (List ComponentIdentity)) (fuel : Nat)
    (hres : ∀ c visited, (∀ r ∈ c.componentReferences, r ∈ U) → VisitedWithin U fuel visited →
      TraversesDepthFirst graph resolve c visited)
    (c : Component) :
    ∀ (refs visited : List ComponentIdentity), (∀ r ∈ refs, r ∈ U) →
      VisitedWithin U (fuel + 1) visited →
      ∃ order, DfsRefs graph visited refs order (visited ++ order) ∧
        (refs.foldlM (visitReference lookup resolve c) visited).result = .ok (visited ++ order) ∧
        yields (refs.foldlM (visitReference lookup resolve c) visited).calls = order.map graph ∧
        lookups (refs.foldlM (visitReference lookup resolve c) visited).calls = order
  | [], visited, _, _ => ⟨[], by simpa using DfsRefs.nil visited, by simp, by simp, by simp⟩
  | id :: refs, visited, hrefs, ⟨hnd, hsub, hlen⟩ => by
    have hid : id ∈ U := hrefs id (List.mem_cons_self _ _)
    have hrest : ∀ r ∈ refs, r ∈ U := fun r hr => hrefs r (List.mem_cons_of_mem _ hr)
    rw [List.foldlM_cons]
    by_cases hv : id ∈ visited
    · obtain ⟨order, hdfs, hres', hy, hl⟩ :=
        foldlM_visitReference resolve fuel hres c refs visited hrest ⟨hnd, hsub, hlen⟩
      have hstep : visitReference lookup resolve c visited id = pure visited := if_pos hv
      rw [hstep, Trace.pure_bind]
      exact ⟨order, .seen hv hdfs, hres', hy, hl⟩
    · have hnd₁ : (visited ++ [id]).Nodup :=
        List.nodup_append.mpr ⟨hnd, List.nodup_singleton _, List.disjoint_singleton.mpr hv⟩
      have hsub₁ : ∀ v ∈ visited ++ [id], v ∈ U := fun v hv' =>
        (List.mem_append.mp hv').elim (hsub v) fun h => List.mem_singleton.mp h ▸ hid
      obtain ⟨below, hdfs₁, hres₁, hy₁, hl₁⟩ :=
        hres (graph id) (visited ++ [id]) (hU id hid) ⟨hnd₁, hsub₁, by simp; omega⟩
      have hvis₁ : VisitedWithin U (fuel + 1) (visited ++ [id] ++ below) :=
        ⟨hdfs₁.nodup hnd₁, fun v hv' => (List.mem_append.mp hv').elim (hsub₁ v)
          (hdfs₁.forall_mem hU (hU id hid) v), by simp; omega⟩
      obtain ⟨after, hdfs₂, hres₂, hy₂, hl₂⟩ :=
        foldlM_visitReference resolve fuel hres c refs _ hrest hvis₁
      have hstep : visitReference lookup resolve c visited id =
          emit (.lookup id c.currentRepositoryCtx) >>= fun _ =>
            resolve (graph id) (visited ++ [id]) := by
        simp only [visitReference, if_neg hv, hlookup, liftExcept_ok, Trace.pure_bind]
      rw [hstep, emit_bind, hres₁, mk_ok_bind]
      refine ⟨id :: below ++ after, .fresh hv hdfs₁ (by simpa using hdfs₂), ?_, ?_, ?_⟩
      · simpa using hres₂
      · simpa [hy₁] using hy₂
      · simpa [hl₁] using hl₂

include hlookup hU in
theorem resolveComponentDependencies_depth_first :
    ∀ fuel c visited, (∀ r ∈ c.componentReferences, r ∈ U) → VisitedWithin U fuel visited →
      TraversesDepthFirst graph (resolveComponentDependencies lookup fuel) c visited
  | 0, _, visited, _, ⟨hnd, hsub, hlen⟩ => by
    have := (List.subperm_of_subset hnd hsub).length_le
    omega
  | fuel + 1, c, visited, hrefs, hvis => by
    obtain ⟨order, hdfs, hres, hy, hl⟩ := foldlM_visitReference hlookup hU _ fuel
      (resolveComponentDependencies_depth_first fuel) c c.componentReferences visited hrefs hvis
    refine ⟨order, hdfs, ?_, ?_, ?_⟩ <;> simp only [resolveComponentDependencies, emit_bind]
    · exact hres
    · simpa using hy
    · simpa using hl

end Run

theorem components_depth_first_exactly_once (graph : ComponentIdentity → Component)
    (lookup : ComponentLookup) (hlookup : ∀ id ctx, lookup id ctx = .ok (graph id))
    (hidentity : ∀ id, (graph id).identity = id) (root : Component)
    (hroot : graph root.identity = root) (U : List ComponentIdentity)
    (hU : ∀ id ∈ U, ∀ r ∈ (graph id).componentReferences, r ∈ U) (hrootU : root.identity ∈ U)
    (fuel : Nat) (hfuel : U.length < fuel) :
    ∃ order, (components root lookup fuel).result = .ok () ∧
      yields (components root lookup fuel).calls = root :: order.map graph ∧
      lookups (components root lookup fuel).calls = order ∧
      DfsRefs graph [root.identity] root.componentReferences order (root.identity :: order) ∧
      ((yields (components root lookup fuel).calls).map Component.identity).Nodup ∧
      ∀ id, id ∈ order ↔ Reachable graph root id ∧ id ≠ root.identity := by
  have hrefs : ∀ r ∈ root.componentReferences, r ∈ U := hroot ▸ hU _ hrootU
  obtain ⟨order, hdfs, hres, hy, hl⟩ := resolveComponentDependencies_depth_first hlookup hU fuel
    root [root.identity] hrefs ⟨List.nodup_singleton _, by simpa using hrootU, by simp; omega⟩
  obtain ⟨hnd, hreach⟩ := dfsRefs_reachable hroot hdfs
  have hmap : (root :: order.map graph).map Component.identity = root.identity :: order := by
    simp [hidentity, Function.comp_def]
  refine ⟨order, by simp [components, mapResult, hres, Except.map], hy, hl, hdfs, ?_, hreach⟩
  rw [show yields (components root lookup fuel).calls = _ from hy, hmap]
  exact hnd

def compA : Component := ⟨"a", "1", [⟨"b", "1"⟩, ⟨"c", "1"⟩], none⟩

def compB : Component := ⟨"b", "1", [⟨"c", "1"⟩, ⟨"a", "1"⟩], none⟩

def compC : Component := ⟨"c", "1", [⟨"b", "1"⟩], none⟩

def abcGraph (id : ComponentIdentity) : Component :=
  if id = compA.identity then compA else if id = compB.identity then compB
  else if id = compC.identity then compC else ⟨id.name, id.version, [], none⟩

theorem cyclic_graph_each_component_once :
    (components compA (fun id _ => .ok (abcGraph id)) 4).result = .ok () ∧
    ((yields (components compA (fun id _ => .ok (abcGraph id)) 4).calls).map
      Component.identity).Nodup :=
  let ⟨_, hres, _, _, _, hnd, _⟩ := components_depth_first_exactly_once abcGraph _
    (fun _ _ => rfl) (fun id => by unfold abcGraph; split_ifs <;> subst_vars <;> rfl) compA
    (by decide) [compA.identity, compB.identity, compC.identity] (by decide) (by decide) 4
    (by decide)
  ⟨hres, hnd⟩

example : (yields (components compA (fun id _ => .ok (abcGraph id)) 4).calls).map
    Component.identity = [compA.identity, compB.identity, compC.identity] := by
  decide

end CcUtils.Cnudie.Components
