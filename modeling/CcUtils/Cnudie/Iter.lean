import CcUtils.Python.Effects

namespace CcUtils.Cnudie.Iter

open CcUtils.Python.Exceptions CcUtils.Python.Effects CcUtils.Python.Effects.Trace

structure ComponentIdentity where
  name : String
  version : String
  deriving DecidableEq, Repr

structure Artefact where
  name : String
  version : String
  deriving DecidableEq, Repr

inductive NodeReferenceType
  | componentReference
  | extraComponentRefsLabel
  deriving DecidableEq, Repr

structure Component where
  name : String
  version : String
  resources : List Artefact
  sources : List Artefact
  componentReferences : List ComponentIdentity
  extraComponentReferences : Option (List ComponentIdentity)
  deriving DecidableEq, Repr

def Component.identity (c : Component) : ComponentIdentity := ⟨c.name, c.version⟩

def Component.references (c : Component) : List (ComponentIdentity × NodeReferenceType) :=
  c.componentReferences.map (·, .componentReference) ++
    (c.extraComponentReferences.getD []).map (·, .extraComponentRefsLabel)

structure NodePathEntry where
  component : Component
  reftype : NodeReferenceType
  deriving DecidableEq, Repr

structure NodePath where
  parents : List NodePathEntry
  last : NodePathEntry
  deriving DecidableEq, Repr

def NodePath.entries (p : NodePath) : List NodePathEntry := p.parents ++ [p.last]

inductive Node
  | componentNode (path : NodePath)
  | resourceNode (path : NodePath) (resource : Artefact)
  | sourceNode (path : NodePath) (source : Artefact)
  deriving DecidableEq, Repr

def Node.path : Node → NodePath
  | .componentNode p | .resourceNode p _ | .sourceNode p _ => p

def Node.component (n : Node) : Component := n.path.last.component

def Node.isComponent : Node → Bool
  | .componentNode _ => true
  | _ => false

def Node.isResource : Node → Bool
  | .resourceNode _ _ => true
  | _ => false

def Filter.resources (node : Node) : Bool := node.isResource

abbrev Lookup := ComponentIdentity → Option String → Except PyExc Component

structure IterConfig where
  lookup : Option Lookup
  ocmRepo : Option String
  componentFilter : Option (Component → Bool)
  reftypeFilter : Option (NodeReferenceType → Bool)

def lookupComponent (cfg : IterConfig) (id : ComponentIdentity) : Trace Node Component :=
  match cfg.lookup with
  | none => raise ⟨.typeError, "\x27NoneType\x27 object is not callable"⟩
  | some lookup => liftExcept (lookup id (cfg.ocmRepo.filter (· ≠ "")))

def yieldArtefacts (component : Component) (path : NodePath) : Trace Node Unit := do
  emit (.componentNode path)
  component.resources.forM fun r => emit (.resourceNode path r)
  component.sources.forM fun s => emit (.sourceNode path s)

/-- `inner_iter`, its recursion bounded by `fuel`; a generator, so the trace's calls are the
nodes it yields. It keeps no record of the components it has visited. -/
def innerIter (cfg : IterConfig) :
    Nat → Component → Int → List NodePathEntry → NodeReferenceType → Trace Node Unit
  | 0, _, _, _, _ => outOfFuel
  | fuel + 1, component, recursionDepth, path, reftype =>
    if cfg.componentFilter.any (· component) || cfg.reftypeFilter.any (· reftype) then pure ()
    else
      let nodePath : NodePath := ⟨path, ⟨component, reftype⟩⟩
      yieldArtefacts component nodePath >>= fun _ =>
      if recursionDepth = 0 then pure ()
      else
        let recursionDepth := if 0 < recursionDepth then recursionDepth - 1 else recursionDepth
        component.references.forM fun (id, reftype) =>
          lookupComponent cfg id >>= fun referenced =>
            innerIter cfg fuel referenced recursionDepth nodePath.entries reftype

/-- The loop of `iter` over the nodes `inner_iter` yields: the node filter, then, with
`prune_unique`, dropping component nodes whose identity was seen before. -/
def pruneNodes (nodeFilter : Option (Node → Bool)) (pruneUnique : Bool) :
    List ComponentIdentity → List Node → List Node
  | _, [] => []
  | seen, node :: nodes =>
    if nodeFilter.any (fun f => !f node) then pruneNodes nodeFilter pruneUnique seen nodes
    else if pruneUnique && node.isComponent then
      if node.component.identity ∈ seen then pruneNodes nodeFilter pruneUnique seen nodes
      else node :: pruneNodes nodeFilter pruneUnique (node.component.identity :: seen) nodes
    else node :: pruneNodes nodeFilter pruneUnique seen nodes

def iter (component : Component) (lookup : Option Lookup) (recursionDepth : Int)
    (pruneUnique : Bool) (nodeFilter : Option (Node → Bool)) (ocmRepo : Option String)
    (componentFilter : Option (Component → Bool))
    (reftypeFilter : Option (NodeReferenceType → Bool)) (fuel : Nat) : Trace Node Unit :=
  if lookup.isNone ∧ recursionDepth ≠ 0 then
    raise ⟨.valueError, "lookup is required if recusion is not disabled (recursion_depth==0)"⟩
  else
    let inner := innerIter ⟨lookup, ocmRepo, componentFilter, reftypeFilter⟩ fuel component
      recursionDepth [] .componentReference
    ⟨pruneNodes nodeFilter pruneUnique [] inner.calls, inner.result⟩

def iterResources (component : Component) (lookup : Option Lookup) (recursionDepth : Int)
    (pruneUnique : Bool) (componentFilter : Option (Component → Bool))
    (reftypeFilter : Option (NodeReferenceType → Bool)) (fuel : Nat) : Trace Node Unit :=
  iter component lookup recursionDepth pruneUnique (some Filter.resources) none componentFilter
    reftypeFilter fuel

section Graph

variable (graph : ComponentIdentity → Component)

def resolving : Lookup := fun id _ => .ok (graph id)

def unfiltered : IterConfig := ⟨some (resolving graph), none, none, none⟩

inductive RefPath : Component → List NodePathEntry → Component → Prop
  | nil (c : Component) : RefPath c [] c
  | cons {c d : Component} {id : ComponentIdentity} {reftype : NodeReferenceType}
      {p : List NodePathEntry} :
      (id, reftype) ∈ c.references → RefPath (graph id) p d →
      RefPath c (⟨graph id, reftype⟩ :: p) d

def pathAlong : List NodePathEntry → NodePathEntry → List NodePathEntry → NodePath
  | parents, e, [] => ⟨parents, e⟩
  | parents, e, e' :: p => pathAlong (parents ++ [e]) e' p

variable {graph}

theorem pathAlong_entries (parents : List NodePathEntry) (e : NodePathEntry)
    (p : List NodePathEntry) : (pathAlong parents e p).entries = parents ++ e :: p := by
  induction p generalizing parents e with
  | nil => rfl
  | cons e' p ih => simp [pathAlong, ih]

theorem pathAlong_last {c d : Component} {p : List NodePathEntry} (h : RefPath graph c p d)
    (parents : List NodePathEntry) (reftype : NodeReferenceType) :
    (pathAlong parents ⟨c, reftype⟩ p).last.component = d := by
  induction h generalizing parents reftype with
  | nil => rfl
  | cons _ _ ih => exact ih _ _

theorem yieldArtefacts_result (c : Component) (path : NodePath) :
    (yieldArtefacts c path).result = .ok () := by
  simp only [yieldArtefacts, emit_bind]
  exact bind_result_ok.mpr ⟨⟨⟩, forM_result_ok.mpr (by simp), forM_result_ok.mpr (by simp)⟩

theorem resourceNode_mem_yieldArtefacts {c : Component} {r : Artefact} (hr : r ∈ c.resources)
    (path : NodePath) : .resourceNode path r ∈ (yieldArtefacts c path).calls := by
  simp only [yieldArtefacts, emit_bind, List.mem_cons]
  right
  refine mem_bind_calls_left (mem_forM_calls ?_ hr (List.mem_singleton_self _))
  simp [forM_result_ok]

theorem innerIter_succ {depth : Int} (hd : depth < 0) (fuel : Nat) (c : Component)
    (parents : List NodePathEntry) (reftype : NodeReferenceType) :
    innerIter (unfiltered graph) (fuel + 1) c depth parents reftype =
      yieldArtefacts c ⟨parents, ⟨c, reftype⟩⟩ >>= fun _ =>
        c.references.forM fun ref =>
          innerIter (unfiltered graph) fuel (graph ref.1) depth (parents ++ [⟨c, reftype⟩])
            ref.2 := by
  have h0 : depth ≠ 0 := by omega
  have hpos : ¬ 0 < depth := by omega
  simp only [innerIter, unfiltered, Option.any_none, Bool.or_false, Bool.false_eq_true,
    if_false, h0, hpos]
  rfl

theorem innerIter_not_raised {depth : Int} (hd : depth < 0) (e : PyExc) :
    ∀ fuel c parents reftype,
      (innerIter (unfiltered graph) fuel c depth parents reftype).result ≠ .error (.raised e)
  | 0, _, _, _ => by simp [innerIter, outOfFuel]
  | fuel + 1, c, parents, reftype => by
    rw [innerIter_succ hd]
    intro h
    rcases bind_result_error h with hy | ⟨_, -, hl⟩
    · simp [yieldArtefacts_result] at hy
    · obtain ⟨ref, -, href⟩ := forM_result_error hl
      exact innerIter_not_raised hd e fuel _ _ _ href

theorem innerIter_not_ok {depth : Int} (hd : depth < 0) {S : Component → Prop}
    (hS : ∀ c, S c → ∃ ref ∈ c.references, S (graph ref.1)) :
    ∀ fuel c parents reftype, S c →
      (innerIter (unfiltered graph) fuel c depth parents reftype).result ≠ .ok ()
  | 0, _, _, _, _ => by simp [innerIter, outOfFuel]
  | fuel + 1, c, parents, reftype, hc => by
    rw [innerIter_succ hd]
    intro h
    obtain ⟨_, -, hl⟩ := bind_result_ok.mp h
    obtain ⟨ref, href, hnext⟩ := hS c hc
    exact innerIter_not_ok hd hS fuel _ _ _ hnext (forM_result_ok.mp hl ref href)

theorem resourceNode_mem_innerIter {depth : Int} (hd : depth < 0) {c x : Component}
    {p : List NodePathEntry} (h : RefPath graph c p x) {r : Artefact} (hr : r ∈ x.resources) :
    ∀ fuel parents reftype,
      (innerIter (unfiltered graph) fuel c depth parents reftype).result = .ok () →
      .resourceNode (pathAlong parents ⟨c, reftype⟩ p) r ∈
        (innerIter (unfiltered graph) fuel c depth parents reftype).calls := by
  induction h with
  | nil c =>
    rintro (_ | fuel) parents reftype hok
    · simp [innerIter, outOfFuel] at hok
    rw [innerIter_succ hd] at hok ⊢
    exact mem_bind_calls_left (resourceNode_mem_yieldArtefacts hr _)
  | cons href _ ih =>
    rintro (_ | fuel) parents reftype hok
    · simp [innerIter, outOfFuel] at hok
    rw [innerIter_succ hd] at hok ⊢
    obtain ⟨⟨⟩, hy, hl⟩ := bind_result_ok.mp hok
    exact mem_bind_calls_right hy
      (mem_forM_calls hl href (ih hr fuel _ _ (forM_result_ok.mp hl _ href)))

theorem yieldArtefacts_emits (c : Component) (path : NodePath) :
    Emits (fun n => n.path = path) (yieldArtefacts c path) :=
  Emits.emit_bind rfl (Emits.bind (Emits.forM fun _ _ => Emits.emit rfl) fun _ _ =>
    Emits.forM fun _ _ => Emits.emit rfl)

theorem componentNode_mem_yieldArtefacts (c : Component) (path : NodePath) :
    .componentNode path ∈ (yieldArtefacts c path).calls := by
  simp [yieldArtefacts]

theorem innerIter_depth_zero (cfg : IterConfig) (fuel : Nat) (c : Component)
    (parents : List NodePathEntry) (reftype : NodeReferenceType) :
    innerIter cfg (fuel + 1) c 0 parents reftype =
      if cfg.componentFilter.any (· c) || cfg.reftypeFilter.any (· reftype) then pure ()
      else yieldArtefacts c ⟨parents, ⟨c, reftype⟩⟩ >>= fun _ => pure () := by
  simp [innerIter]

theorem innerIter_depth_succ (k fuel : Nat) (c : Component) (parents : List NodePathEntry)
    (reftype : NodeReferenceType) :
    innerIter (unfiltered graph) (fuel + 1) c ((k + 1 : Nat) : Int) parents reftype =
      yieldArtefacts c ⟨parents, ⟨c, reftype⟩⟩ >>= fun _ =>
        c.references.forM fun ref =>
          innerIter (unfiltered graph) fuel (graph ref.1) k (parents ++ [⟨c, reftype⟩]) ref.2 := by
  have h0 : ((k + 1 : Nat) : Int) ≠ 0 := by omega
  have hpos : (0 : Int) < ((k + 1 : Nat) : Int) := by omega
  have hdec : ((k + 1 : Nat) : Int) - 1 = k := by omega
  simp only [innerIter, unfiltered, Option.any_none, Bool.or_false, Bool.false_eq_true,
    if_false, h0, hpos, if_true, hdec]
  rfl

theorem innerIter_depth_ok (k : Nat) :
    ∀ fuel c parents reftype, k < fuel →
      (innerIter (unfiltered graph) fuel c k parents reftype).result = .ok () := by
  induction k with
  | zero =>
    rintro (_ | fuel) c parents reftype hk
    · omega
    rw [show ((0 : Nat) : Int) = 0 from rfl, innerIter_depth_zero]
    exact bind_result_ok.mpr ⟨(), yieldArtefacts_result _ _, rfl⟩
  | succ k ih =>
    rintro (_ | fuel) c parents reftype hk
    · omega
    rw [innerIter_depth_succ]
    exact bind_result_ok.mpr ⟨(), yieldArtefacts_result _ _,
      forM_result_ok.mpr fun _ _ => ih _ _ _ _ (by omega)⟩

theorem innerIter_depth_path_length (k : Nat) :
    ∀ fuel c parents reftype, Emits (fun n => n.path.entries.length ≤ parents.length + k + 1)
      (innerIter (unfiltered graph) fuel c k parents reftype) := by
  induction k with
  | zero =>
    rintro (_ | fuel) c parents reftype
    · exact Emits.outOfFuel
    rw [show ((0 : Nat) : Int) = 0 from rfl, innerIter_depth_zero]
    refine Emits.bind ((yieldArtefacts_emits _ _).mono fun n hn => ?_) fun _ _ => Emits.pure _
    simp [NodePath.entries, hn]
  | succ k ih =>
    rintro (_ | fuel) c parents reftype
    · exact Emits.outOfFuel
    rw [innerIter_depth_succ]
    refine Emits.bind ((yieldArtefacts_emits _ _).mono fun n hn => ?_) fun _ _ =>
      Emits.forM fun _ _ => (ih _ _ _ _).mono fun n hn => ?_
    · simp [NodePath.entries, hn]
    · simp only [List.length_append, List.length_singleton] at hn
      omega

theorem componentNode_mem_innerIter_depth {c x : Component} {p : List NodePathEntry}
    (h : RefPath graph c p x) :
    ∀ k fuel parents reftype, p.length ≤ k → k < fuel →
      .componentNode (pathAlong parents ⟨c, reftype⟩ p) ∈
        (innerIter (unfiltered graph) fuel c k parents reftype).calls := by
  induction h with
  | nil c =>
    rintro (_ | k) (_ | fuel) parents reftype - hk
    · omega
    · rw [show ((0 : Nat) : Int) = 0 from rfl, innerIter_depth_zero]
      exact mem_bind_calls_left (componentNode_mem_yieldArtefacts _ _)
    · omega
    · rw [innerIter_depth_succ]
      exact mem_bind_calls_left (componentNode_mem_yieldArtefacts _ _)
  | @cons c _ _ _ _ href _ ih =>
    rintro (_ | k) (_ | fuel) parents reftype hp hk
    · simp at hp
    · simp at hp
    · omega
    have hok : (innerIter (unfiltered graph) (fuel + 1) c ((k + 1 : Nat) : Int) parents
        reftype).result = .ok () := innerIter_depth_ok _ _ _ _ _ hk
    rw [innerIter_depth_succ] at hok ⊢
    obtain ⟨⟨⟩, hy, hl⟩ := bind_result_ok.mp hok
    exact mem_bind_calls_right hy
      (mem_forM_calls hl href (ih k fuel _ _ (by simpa using hp) (by omega)))

theorem innerIter_depth_zero_lookup (lookup : Option Lookup) (ocmRepo : Option String)
    (componentFilter : Option (Component → Bool))
    (reftypeFilter : Option (NodeReferenceType → Bool)) (fuel : Nat) (c : Component)
    (parents : List NodePathEntry) (reftype : NodeReferenceType) :
    innerIter ⟨lookup, ocmRepo, componentFilter, reftypeFilter⟩ fuel c 0 parents reftype =
      innerIter ⟨none, ocmRepo, componentFilter, reftypeFilter⟩ fuel c 0 parents reftype := by
  cases fuel
  · rfl
  · rw [innerIter_depth_zero, innerIter_depth_zero]

end Graph

theorem mem_pruneNodes {nodeFilter : Option (Node → Bool)} {pruneUnique : Bool} {n : Node}
    {nodes : List Node} (hn : n ∈ nodes) (hc : n.isComponent = false)
    (hf : nodeFilter.all (· n) = true) (seen : List ComponentIdentity) :
    n ∈ pruneNodes nodeFilter pruneUnique seen nodes := by
  induction nodes generalizing seen with
  | nil => simp at hn
  | cons m nodes ih =>
    rcases List.mem_cons.mp hn with rfl | hn
    · cases nodeFilter <;> simp_all [pruneNodes]
    · unfold pruneNodes
      split_ifs <;> simp [ih hn]

theorem pruneNodes_sublist (nodeFilter : Option (Node → Bool)) (pruneUnique : Bool) :
    ∀ (seen : List ComponentIdentity) (nodes : List Node),
      (pruneNodes nodeFilter pruneUnique seen nodes).Sublist nodes
  | _, [] => List.Sublist.slnil
  | seen, m :: nodes => by
    unfold pruneNodes
    split_ifs
    · exact (pruneNodes_sublist nodeFilter pruneUnique seen nodes).cons m
    · exact (pruneNodes_sublist nodeFilter pruneUnique seen nodes).cons m
    · exact (pruneNodes_sublist nodeFilter pruneUnique _ nodes).cons₂ m
    · exact (pruneNodes_sublist nodeFilter pruneUnique seen nodes).cons₂ m

theorem exists_identity_pruneNodes (nodeFilter : Option (Node → Bool)) {n : Node}
    (hc : n.isComponent = true) (hf : nodeFilter.all (· n) = true) {nodes : List Node}
    (hn : n ∈ nodes) (seen : List ComponentIdentity) :
    n.component.identity ∈ seen ∨ ∃ m ∈ pruneNodes nodeFilter true seen nodes,
      m.isComponent = true ∧ m.component.identity = n.component.identity := by
  induction nodes generalizing seen with
  | nil => simp at hn
  | cons m nodes ih =>
    unfold pruneNodes
    rcases List.mem_cons.mp hn with rfl | hn
    · split_ifs with h1 h2 h3
      · cases nodeFilter <;> simp_all
      · exact .inl h3
      · exact .inr ⟨_, List.mem_cons_self _ _, hc, rfl⟩
      · simp [hc] at h2
    · have hkeep : ∀ {seen'}, (∃ m' ∈ pruneNodes nodeFilter true seen' nodes,
          m'.isComponent = true ∧ m'.component.identity = n.component.identity) →
          ∃ m' ∈ m :: pruneNodes nodeFilter true seen' nodes,
            m'.isComponent = true ∧ m'.component.identity = n.component.identity :=
        fun ⟨m', hm', hmc, hid⟩ => ⟨m', List.mem_cons_of_mem _ hm', hmc, hid⟩
      split_ifs with h1 h2 h3
      · exact ih hn seen
      · exact ih hn seen
      · rcases ih hn (m.component.identity :: seen) with hs | h
        · rcases List.mem_cons.mp hs with hs | hs
          · exact .inr ⟨m, List.mem_cons_self _ _, by simpa using h2, hs.symm⟩
          · exact .inl hs
        · exact .inr (hkeep h)
      · exact (ih hn seen).imp id hkeep

def componentIdentities (nodes : List Node) : List ComponentIdentity :=
  (nodes.filter Node.isComponent).map (·.component.identity)

theorem componentIdentities_cons (n : Node) (nodes : List Node) :
    componentIdentities (n :: nodes) =
      if n.isComponent then n.component.identity :: componentIdentities nodes
      else componentIdentities nodes := by
  by_cases h : n.isComponent <;> simp [componentIdentities, List.filter_cons, h]

theorem pruneNodes_componentIdentities (nodeFilter : Option (Node → Bool)) :
    ∀ (seen : List ComponentIdentity) (nodes : List Node),
      (componentIdentities (pruneNodes nodeFilter true seen nodes)).Nodup ∧
      ∀ i ∈ componentIdentities (pruneNodes nodeFilter true seen nodes), i ∉ seen
  | _, [] => by simp [pruneNodes, componentIdentities]
  | seen, node :: nodes => by
    have ih := pruneNodes_componentIdentities nodeFilter seen nodes
    have ih' := pruneNodes_componentIdentities nodeFilter (node.component.identity :: seen) nodes
    unfold pruneNodes
    split_ifs with hf hc hs
    · exact ih
    · exact ih
    · rw [Bool.true_and] at hc
      rw [componentIdentities_cons, if_pos hc, List.nodup_cons]
      refine ⟨⟨fun hm => ih'.2 _ hm (List.mem_cons_self _ _), ih'.1⟩, ?_⟩
      rintro i (_ | ⟨_, hi⟩)
      · exact hs
      · exact fun h => ih'.2 i hi (List.mem_cons_of_mem _ h)
    · rw [Bool.true_and] at hc
      rw [componentIdentities_cons, if_neg hc]
      exact ih

def YieldsTwice (nodes : List Node) (x : Component) (r : Artefact) : Prop :=
  ∃ path₁ path₂, path₁ ≠ path₂ ∧ path₁.last.component = x ∧ path₂.last.component = x ∧
    .resourceNode path₁ r ∈ nodes ∧ .resourceNode path₂ r ∈ nodes

theorem iter_traverses_without_pruning (graph : ComponentIdentity → Component)
    (root : Component) :
    (∀ S : Component → Prop, (∀ c, S c → ∃ ref ∈ c.references, S (graph ref.1)) → S root →
      ∀ fuel, (iter root (some (resolving graph)) (-1) true none none none none fuel).result =
        .error .outOfFuel) ∧
    (∀ x r p q, RefPath graph root p x → RefPath graph root q x → p ≠ q → r ∈ x.resources →
      ∀ fuel, (iter root (some (resolving graph)) (-1) true none none none none fuel).result =
        .ok () →
      YieldsTwice (iter root (some (resolving graph)) (-1) true none none none none fuel).calls
          x r ∧
        YieldsTwice (iterResources root (some (resolving graph)) (-1) true none none fuel).calls
          x r) := by
  have hd : (-1 : Int) < 0 := by decide
  refine ⟨fun S hS hroot fuel => ?_, fun x r p q hp hq hpq hr fuel hok => ?_⟩
  · show (innerIter (unfiltered graph) fuel root (-1) [] .componentReference).result = _
    cases h : (innerIter (unfiltered graph) fuel root (-1) [] .componentReference).result with
    | ok _ => exact absurd h (innerIter_not_ok hd hS fuel root [] _ hroot)
    | error halt =>
      cases halt with
      | raised e => exact absurd h (innerIter_not_raised hd e fuel root [] _)
      | outOfFuel => rfl
  · have hmem : ∀ {p}, RefPath graph root p x → ∀ nodeFilter : Option (Node → Bool),
        nodeFilter.all (· (.resourceNode (pathAlong [] ⟨root, .componentReference⟩ p) r)) →
        .resourceNode (pathAlong [] ⟨root, .componentReference⟩ p) r ∈
          pruneNodes nodeFilter true []
            (innerIter (unfiltered graph) fuel root (-1) [] .componentReference).calls :=
      fun h _ hf => mem_pruneNodes (resourceNode_mem_innerIter hd h hr fuel [] _ hok) rfl hf []
    have hne : pathAlong [] ⟨root, .componentReference⟩ p ≠
        pathAlong [] ⟨root, .componentReference⟩ q := fun h => hpq <| by
      have h := congrArg NodePath.entries h
      rw [pathAlong_entries, pathAlong_entries] at h
      simpa using h
    exact ⟨⟨_, _, hne, pathAlong_last hp [] _, pathAlong_last hq [] _, hmem hp none rfl,
        hmem hq none rfl⟩,
      ⟨_, _, hne, pathAlong_last hp [] _, pathAlong_last hq [] _, hmem hp _ rfl, hmem hq _ rfl⟩⟩

def componentA : Component := ⟨"a", "1", [], [], [⟨"b", "1"⟩], none⟩

def componentB : Component := ⟨"b", "1", [], [], [⟨"a", "1"⟩], none⟩

def cycleGraph (id : ComponentIdentity) : Component :=
  if id = componentA.identity then componentA else componentB

def image : Artefact := ⟨"image", "1"⟩

def shared : Component := ⟨"d", "1", [image], [], [], none⟩

def left : Component := ⟨"b", "1", [], [], [shared.identity], none⟩

def right : Component := ⟨"c", "1", [], [], [shared.identity], none⟩

def top : Component := ⟨"a", "1", [], [], [left.identity, right.identity], none⟩

def diamondGraph (id : ComponentIdentity) : Component :=
  if id = left.identity then left else if id = right.identity then right else shared

theorem cycle_diverges_and_diamond_duplicates :
    (∀ fuel, (iter componentA (some (resolving cycleGraph)) (-1) true none none none none
      fuel).result = .error .outOfFuel) ∧
    YieldsTwice (iterResources top (some (resolving diamondGraph)) (-1) true none none 4).calls
      shared image :=
  ⟨(iter_traverses_without_pruning cycleGraph componentA).1 (· ∈ [componentA, componentB])
      (by decide) (by decide),
    ((iter_traverses_without_pruning diamondGraph top).2 shared image _ _
      (.cons (show (left.identity, .componentReference) ∈ top.references by decide)
        (.cons (show (shared.identity, .componentReference) ∈ left.references by decide) (.nil _)))
      (.cons (show (right.identity, .componentReference) ∈ top.references by decide)
        (.cons (show (shared.identity, .componentReference) ∈ right.references by decide)
          (.nil _)))
      (by decide) (by decide) 4 rfl).2⟩

theorem iter_depth_bounded (graph : ComponentIdentity → Component) (root : Component) (d : Nat) :
    (∀ fuel, d < fuel →
      (iter root (some (resolving graph)) d true none none none none fuel).result = .ok ()) ∧
    (∀ fuel, ∀ n ∈ (iter root (some (resolving graph)) d true none none none none fuel).calls,
      n.path.entries.length ≤ d + 1) ∧
    (∀ fuel x p, d < fuel → RefPath graph root p x → p.length ≤ d →
      ∃ n ∈ (iter root (some (resolving graph)) d true none none none none fuel).calls,
        n.isComponent = true ∧ n.component.identity = x.identity) ∧
    ∀ (lookup : Option Lookup) pruneUnique nodeFilter ocmRepo componentFilter reftypeFilter fuel,
      iter root lookup 0 pruneUnique nodeFilter ocmRepo componentFilter reftypeFilter fuel =
        iter root none 0 pruneUnique nodeFilter ocmRepo componentFilter reftypeFilter fuel := by
  refine ⟨fun fuel hf => innerIter_depth_ok d fuel root [] _ hf, fun fuel n hn => ?_,
    fun fuel x p hf hp hlen => ?_, fun lookup _ _ ocmRepo componentFilter reftypeFilter fuel => ?_⟩
  · have h := innerIter_depth_path_length d fuel root [] .componentReference n
      ((pruneNodes_sublist _ _ _ _).subset hn)
    simpa using h
  · have hmem := componentNode_mem_innerIter_depth hp d fuel [] .componentReference hlen hf
    rcases exists_identity_pruneNodes none (n := .componentNode _) rfl rfl hmem [] with
      h | ⟨m, hm, hmc, hid⟩
    · simp at h
    · exact ⟨m, hm, hmc, hid.trans (congrArg Component.identity (pathAlong_last hp [] _))⟩
  · simp only [iter, ne_eq, not_true_eq_false, and_false, if_false,
      innerIter_depth_zero_lookup lookup ocmRepo componentFilter reftypeFilter]

theorem cycle_completes_at_depth_one :
    (iter componentA (some (resolving cycleGraph)) 1 true none none none none 2).result =
      .ok () :=
  (iter_depth_bounded cycleGraph componentA 1).1 2 (by decide)

end CcUtils.Cnudie.Iter
