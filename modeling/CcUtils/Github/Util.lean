import CcUtils.Python.Effects
import CcUtils.Python.Sorted
import Mathlib.Data.List.Infix

namespace CcUtils.Github.Util

open CcUtils.Python.Exceptions CcUtils.Python.Effects CcUtils.Python.Sorted

def cuts (sep : List Char) : List Char → List (List Char × List Char)
  | [] => []
  | c :: cs =>
    (cuts sep cs).map (fun p => (c :: p.1, p.2)) ++
      if sep.isPrefixOf (c :: cs) then [([], (c :: cs).drop sep.length)] else []

/-- The groups of `(.*):(.*):(.*)->(.*)` over the text between `[ci:` and the closing `]`: the
first match in the order Python's backtracking tries them, each group as long as the groups
after it allow. -/
def prTitleGroups (inner : List Char) : Option (List Char × List Char × List Char × List Char) :=
  (cuts [':'] inner).findSome? fun (g1, r1) =>
    (cuts [':'] r1).findSome? fun (g2, r2) =>
      (cuts ['-', '>'] r2).head?.map fun (g3, g4) => (g1, g2, g3, g4)

def prTitleFullmatch (title : String) : Option (String × String × String × String) :=
  if title.toList.contains '\n' ||
      !("[ci:".toList.isPrefixOf title.toList && "]".toList.isSuffixOf title.toList) then none
  else (prTitleGroups (title.toList.drop 4).dropLast).map fun (g1, g2, g3, g4) =>
    (⟨g1⟩, ⟨g2⟩, ⟨g3⟩, ⟨g4⟩)

structure DependencyReference where
  typeName : String
  name : String
  deriving DecidableEq, Repr

def calculatePrTitle (reference : DependencyReference) (fromVersion toVersion : String) :
    String :=
  "[ci:" ++ reference.typeName ++ ":" ++ reference.name ++ ":" ++ fromVersion ++ "->" ++
    toVersion ++ "]"

structure UpgradePullRequest where
  referenceTypeName : String
  refName : String
  fromVersion : String
  toVersion : String
  deriving DecidableEq, Repr

def parsePrTitle (referenceType : String → Except PyExc String) (title : String) :
    Except PyExc UpgradePullRequest :=
  match prTitleFullmatch title with
  | none => .error ⟨.valueError, "PR-title \x27" ++ title ++ "\x27 did not match title-schema"⟩
  | some (g1, refName, fromVersion, toVersion) =>
    referenceType (if g1 = "" then "component" else g1) >>= fun typeName =>
      .ok ⟨typeName, refName, fromVersion, toVersion⟩

def semverChar (c : Char) : Bool := c.isAlphanum || c == '.' || c == '-' || c == '+'

theorem cuts_eq_nil {sep l : List Char} {c : Char} (hc : c ∈ sep) (hl : c ∉ l) :
    cuts sep l = [] := by
  induction l with
  | nil => rfl
  | cons d ds ih =>
    have hpre : sep.isPrefixOf (d :: ds) = false := by
      rw [Bool.eq_false_iff, ne_eq, List.isPrefixOf_iff_prefix]
      exact fun h => hl (h.subset hc)
    simp [cuts, ih (fun h => hl (List.mem_cons_of_mem d h)), hpre]

theorem cuts_single_append (c : Char) (u v : List Char) :
    cuts [c] (u ++ v) = (cuts [c] v).map (fun p => (u ++ p.1, p.2)) ++
      (cuts [c] u).map (fun p => (p.1, p.2 ++ v)) := by
  induction u with
  | nil => simp [cuts]
  | cons d ds ih =>
    by_cases hd : d = c
    · subst hd
      simp [cuts, ih, Function.comp_def]
    · simp [cuts, ih, Function.comp_def, Ne.symm hd]

theorem cuts_single_cons_self (c : Char) {w : List Char} (hw : c ∉ w) :
    cuts [c] (c :: w) = [([], w)] := by
  simp [cuts, cuts_eq_nil (List.mem_singleton_self c) hw]

theorem cuts_arrow {u v : List Char} (hu : '>' ∉ u) (hv : '>' ∉ v) :
    cuts ['-', '>'] (u ++ '-' :: '>' :: v) = [(u, v)] := by
  have hnil : ∀ l, '>' ∉ l → cuts ['-', '>'] l = [] := fun _ => cuts_eq_nil (c := '>') (by simp)
  induction u with
  | nil => simp [cuts, hnil v hv]
  | cons d ds ih =>
    rw [List.mem_cons, not_or] at hu
    rw [List.cons_append, cuts, ih hu.2]
    cases ds with
    | nil => simp [hu.1]
    | cons d' ds => simp [List.ne_of_not_mem_cons hu.2]

theorem prTitleGroups_eq (a r fv tv : List Char) (hr : ':' ∉ r) (hfv : ':' ∉ fv ∧ '>' ∉ fv)
    (htv : ':' ∉ tv ∧ '>' ∉ tv) :
    prTitleGroups (a ++ ':' :: (r ++ ':' :: (fv ++ '-' :: '>' :: tv))) = some (a, r, fv, tv) := by
  have hw : ':' ∉ fv ++ '-' :: '>' :: tv := by simp [hfv.1, htv.1]
  have hinner : cuts [':'] (r ++ ':' :: (fv ++ '-' :: '>' :: tv)) = [(r, fv ++ '-' :: '>' :: tv)] := by
    simp [cuts_single_append, cuts_single_cons_self ':' hw,
      cuts_eq_nil (List.mem_singleton_self ':') hr]
  rw [prTitleGroups, cuts_single_append]
  simp [cuts, hinner, cuts_eq_nil (List.mem_singleton_self ':') hw, cuts_arrow hfv.2 htv.2]

theorem semver_not_mem {v : List Char} (h : ∀ c ∈ v, semverChar c = true) :
    ':' ∉ v ∧ '>' ∉ v ∧ '\n' ∉ v :=
  ⟨fun hm => absurd (h _ hm) (by decide), fun hm => absurd (h _ hm) (by decide),
    fun hm => absurd (h _ hm) (by decide)⟩

theorem calculatePrTitle_toList (reference : DependencyReference) (fromVersion toVersion : String) :
    (calculatePrTitle reference fromVersion toVersion).toList =
      ['[', 'c', 'i', ':'] ++ (reference.typeName.toList ++ ':' :: (reference.name.toList ++
        ':' :: (fromVersion.toList ++ '-' :: '>' :: toVersion.toList))) ++ [']'] := by
  simp [calculatePrTitle, String.toList]

theorem prTitleFullmatch_wrap (inner : List Char) (hnl : '\n' ∉ inner) :
    prTitleFullmatch ⟨['[', 'c', 'i', ':'] ++ inner ++ [']']⟩ =
      (prTitleGroups inner).map fun (g1, g2, g3, g4) => (⟨g1⟩, ⟨g2⟩, ⟨g3⟩, ⟨g4⟩) := by
  have hpre : ['[', 'c', 'i', ':'].isPrefixOf (['[', 'c', 'i', ':'] ++ inner ++ [']']) = true :=
    List.isPrefixOf_iff_prefix.mpr ((List.prefix_append _ _).trans (List.prefix_append _ _))
  have hsuf : [']'].isSuffixOf (['[', 'c', 'i', ':'] ++ inner ++ [']']) = true :=
    List.isSuffixOf_iff_suffix.mpr (List.suffix_append _ _)
  have hcontains : (['[', 'c', 'i', ':'] ++ inner ++ [']']).contains '\n' = false := by
    simp [hnl]
  simp only [prTitleFullmatch, String.toList, hcontains, hpre, hsuf]
  simp

theorem prTitleFullmatch_calculated (reference : DependencyReference) (fromVersion toVersion : String)
    (a r : List Char) (hsplit : reference.typeName.toList ++ ':' :: reference.name.toList = a ++ ':' :: r)
    (hr : ':' ∉ r) (htype : '\n' ∉ reference.typeName.toList) (hname : '\n' ∉ reference.name.toList)
    (hfrom : ∀ c ∈ fromVersion.toList, semverChar c = true)
    (hto : ∀ c ∈ toVersion.toList, semverChar c = true) :
    prTitleFullmatch (calculatePrTitle reference fromVersion toVersion) =
      some (⟨a⟩, ⟨r⟩, fromVersion, toVersion) := by
  have hfv := semver_not_mem hfrom
  have htv := semver_not_mem hto
  have hinner : reference.typeName.toList ++ ':' :: (reference.name.toList ++
      ':' :: (fromVersion.toList ++ '-' :: '>' :: toVersion.toList)) =
      a ++ ':' :: (r ++ ':' :: (fromVersion.toList ++ '-' :: '>' :: toVersion.toList)) := by
    simpa using congrArg (· ++ ':' :: (fromVersion.toList ++ '-' :: '>' :: toVersion.toList)) hsplit
  rw [show calculatePrTitle reference fromVersion toVersion = ⟨_⟩ from
      congrArg String.mk (calculatePrTitle_toList reference fromVersion toVersion),
    prTitleFullmatch_wrap _ (by simpa using ⟨htype, hname, hfv.2.2, htv.2.2⟩), hinner,
    prTitleGroups_eq a r _ _ hr ⟨hfv.1, hfv.2.1⟩ ⟨htv.1, htv.2.1⟩]
  rfl

theorem pr_title_name_cut_at_last_colon (reference : DependencyReference)
    (fromVersion toVersion : String) (htype : '\n' ∉ reference.typeName.toList)
    (hname : '\n' ∉ reference.name.toList) (hfrom : ∀ c ∈ fromVersion.toList, semverChar c = true)
    (hto : ∀ c ∈ toVersion.toList, semverChar c = true) :
    (':' ∉ reference.name.toList → reference.typeName ≠ "" →
      ∀ referenceType, referenceType reference.typeName = .ok reference.typeName →
        parsePrTitle referenceType (calculatePrTitle reference fromVersion toVersion) =
          .ok ⟨reference.typeName, reference.name, fromVersion, toVersion⟩) ∧
    ∀ r1 r2, reference.name = r1 ++ ":" ++ r2 → ':' ∉ r2.toList →
      prTitleFullmatch (calculatePrTitle reference fromVersion toVersion) =
        some (reference.typeName ++ ":" ++ r1, r2, fromVersion, toVersion) ∧
      ∀ referenceType u,
        parsePrTitle referenceType (calculatePrTitle reference fromVersion toVersion) = .ok u →
          u.refName = r2 := by
  constructor
  · intro hr hne referenceType hty
    rw [parsePrTitle, prTitleFullmatch_calculated reference fromVersion toVersion _ _ rfl hr htype
      hname hfrom hto]
    simp [hne, hty]
  · intro r1 r2 hsplit hr2
    have hm := prTitleFullmatch_calculated reference fromVersion toVersion
      (reference.typeName ++ ":" ++ r1).toList r2.toList (by simp [hsplit, String.toList]) hr2
      htype hname hfrom hto
    refine ⟨hm, fun referenceType u hu => ?_⟩
    rw [parsePrTitle, hm] at hu
    obtain ⟨_, -, h⟩ := except_bind_eq_ok.mp hu
    cases h
    rfl

def portImage : DependencyReference := ⟨"container_image", "registry:5000/img"⟩

theorem port_image_title_misparsed :
    prTitleFullmatch (calculatePrTitle portImage "1.0.0" "2.0.0") =
      some ("container_image:registry", "5000/img", "1.0.0", "2.0.0") :=
  ((pr_title_name_cut_at_last_colon portImage "1.0.0" "2.0.0" (by decide) (by decide) (by decide)
    (by decide)).2 "registry" "5000/img" (by decide) (by decide)).1

structure ComponentReference where
  typeName : String
  name : String
  version : String
  deriving DecidableEq, Repr

def UpgradePullRequest.referenceRefs (pr : UpgradePullRequest)
    (references : List ComponentReference) : List ComponentReference :=
  (references.filter (·.typeName == pr.referenceTypeName)).filter (·.name == pr.refName)

/-- `UpgradePullRequest.is_obsolete`, with `semver.parse_version_info` as `parseVersion`:
`sorted` computes every key before it sorts, and the greatest version is parsed once more. -/
def UpgradePullRequest.isObsolete {V : Type} [LinearOrder V] (parseVersion : String → Except PyExc V)
    (pr : UpgradePullRequest) (references : List ComponentReference) : Except PyExc Bool := do
  let keyed ← (pr.referenceRefs references).mapM fun r => (parseVersion r.version).map (·, r)
  match (sortedBy Prod.fst keyed).getLast? with
  | none => pure false
  | some greatest => do
    let greatestReferenceVersion ← parseVersion greatest.2.version
    let target ← parseVersion pr.toVersion
    pure (decide (target ≤ greatestReferenceVersion))

theorem mapM_keyed {α V : Type} {f : α → Except PyExc V} :
    ∀ {l : List α}, (∀ r ∈ l, ∃ v, f r = .ok v) → ∃ keyed,
      l.mapM (fun r => (f r).map (·, r)) = .ok keyed ∧ (∀ p ∈ keyed, p.2 ∈ l ∧ f p.2 = .ok p.1) ∧
      ∀ r ∈ l, ∃ p ∈ keyed, p.2 = r
  | [], _ => ⟨[], rfl, nofun, nofun⟩
  | r :: l, h => by
    obtain ⟨v, hv⟩ := h r (List.mem_cons_self _ _)
    obtain ⟨keyed, hk, hmem, hcover⟩ := mapM_keyed fun r' hr' => h r' (List.mem_cons_of_mem _ hr')
    refine ⟨(v, r) :: keyed, by rw [List.mapM_cons, hv, hk]; rfl, fun p hp => ?_, fun r' hr' => ?_⟩
    · rcases List.mem_cons.mp hp with rfl | hp
      · exact ⟨List.mem_cons_self _ _, hv⟩
      · exact ⟨List.mem_cons_of_mem _ (hmem p hp).1, (hmem p hp).2⟩
    · rcases List.mem_cons.mp hr' with rfl | hr'
      · exact ⟨(v, r'), List.mem_cons_self _ _, rfl⟩
      · obtain ⟨p, hp, rfl⟩ := hcover r' hr'
        exact ⟨p, List.mem_cons_of_mem _ hp, rfl⟩

theorem is_obsolete_iff_newer_reference {V : Type} [LinearOrder V]
    (parseVersion : String → Except PyExc V) (pr : UpgradePullRequest)
    (references : List ComponentReference) :
    (pr.referenceRefs references = [] → pr.isObsolete parseVersion references = .ok false) ∧
    ∀ target, (∀ r ∈ pr.referenceRefs references, ∃ v, parseVersion r.version = .ok v) →
      parseVersion pr.toVersion = .ok target →
      ∃ b, pr.isObsolete parseVersion references = .ok b ∧
        (b = true ↔ ∃ r ∈ pr.referenceRefs references, ∃ v,
          parseVersion r.version = .ok v ∧ target ≤ v) := by
  refine ⟨fun h => by rw [UpgradePullRequest.isObsolete, h]; rfl, fun target hparse ht => ?_⟩
  obtain ⟨keyed, hk, hmem, hcover⟩ := mapM_keyed hparse
  cases hg : (sortedBy Prod.fst keyed).getLast? with
  | none =>
    refine ⟨false, by rw [UpgradePullRequest.isObsolete, hk, except_ok_bind, hg]; rfl, nofun,
      fun ⟨r, hr, _⟩ => ?_⟩
    obtain ⟨p, hp, -⟩ := hcover r hr
    simpa [List.getLast?_eq_none_iff.mp hg] using (mem_sortedBy Prod.fst).mpr hp
  | some g =>
    obtain ⟨hgmem, hmax⟩ := getLast?_sortedBy hg
    refine ⟨decide (target ≤ g.1), ?_, ?_⟩
    · rw [UpgradePullRequest.isObsolete, hk, except_ok_bind, hg]
      dsimp only
      rw [(hmem g hgmem).2, except_ok_bind, ht]
      rfl
    · rw [decide_eq_true_iff]
      constructor
      · exact fun hle => ⟨g.2, (hmem g hgmem).1, g.1, (hmem g hgmem).2, hle⟩
      · rintro ⟨r, hr, v, hv, hle⟩
        obtain ⟨p, hp, rfl⟩ := hcover r hr
        have hpv : p.1 = v := Except.ok.inj ((hmem p hp).2.symm.trans hv)
        exact hle.trans (hpv ▸ hmax p hp)

example : (⟨"component", "c", "1.0.0", "latest"⟩ : UpgradePullRequest).isObsolete
      (fun v => if v = "1.0.0" then .ok 0 else if v = "1.1.0" then .ok 1
        else .error ⟨.valueError, v ++ " is not valid SemVer string"⟩)
      [⟨"component", "other", "1.1.0"⟩] = .ok false ∧
    (⟨"component", "c", "1.0.0", "1.0.0"⟩ : UpgradePullRequest).isObsolete
      (fun v => if v = "1.0.0" then .ok 0 else if v = "1.1.0" then .ok 1
        else .error ⟨.valueError, v ++ " is not valid SemVer string"⟩)
      [⟨"component", "c", "1.1.0"⟩] = .ok true :=
  ⟨rfl, rfl⟩

end CcUtils.Github.Util
