import Mathlib.Data.List.Basic

namespace CcUtils.Actions.OcmUpgrade

structure ComponentReferenceEntry where
  componentName : String
  version : String
  rest : List (String × String)
  deriving DecidableEq, Repr

structure BaseComponentDocument where
  componentReferences : List ComponentReferenceEntry
  rest : List (String × String)
  deriving DecidableEq, Repr

structure UpgradeVector where
  componentName : String
  whenceVersion : String
  whitherVersion : String
  deriving DecidableEq, Repr

def rewriteWhence (whence whither : String) :
    List ComponentReferenceEntry → Option (List ComponentReferenceEntry)
  | [] => none
  | e :: es =>
    if e.version ≠ whence then (e :: ·) <$> rewriteWhence whence whither es
    else some ({ e with version := whither } :: es)

/-- `create_diff_in_base_component`, on the content of the base-component file (`none` when
there is no such file): what it returns, and the file's content afterwards. -/
def createDiffInBaseComponent (v : UpgradeVector) (file : Option BaseComponentDocument) :
    Bool × Option BaseComponentDocument :=
  match file with
  | none => (false, none)
  | some doc =>
    if !doc.componentReferences.any (·.componentName == v.componentName) then (false, file)
    else
      match rewriteWhence v.whenceVersion v.whitherVersion doc.componentReferences with
      | none => (false, file)
      | some crefs => (true, some { doc with componentReferences := crefs })

theorem rewriteWhence_eq_none_iff (whence whither : String) :
    ∀ l, rewriteWhence whence whither l = none ↔ ∀ e ∈ l, e.version ≠ whence
  | [] => by simp [rewriteWhence]
  | e :: es => by
    by_cases he : e.version = whence
    · simp [rewriteWhence, he]
    · simp [rewriteWhence, he, rewriteWhence_eq_none_iff whence whither es]

theorem rewriteWhence_of_split (whence whither : String) {e : ComponentReferenceEntry}
    (post : List ComponentReferenceEntry) (he : e.version = whence) :
    ∀ pre : List ComponentReferenceEntry, (∀ x ∈ pre, x.version ≠ whence) →
      rewriteWhence whence whither (pre ++ e :: post) =
        some (pre ++ { e with version := whither } :: post)
  | [], _ => by simp [rewriteWhence, he]
  | x :: pre, hpre => by
    have hx := hpre x (List.mem_cons_self _ _)
    simp [rewriteWhence, hx,
      rewriteWhence_of_split whence whither post he pre fun y hy => hpre y (List.mem_cons_of_mem _ hy)]

theorem createDiffInBaseComponent_fst (v : UpgradeVector) (doc : BaseComponentDocument) :
    (createDiffInBaseComponent v (some doc)).1 =
      (doc.componentReferences.any (·.componentName == v.componentName) &&
        (rewriteWhence v.whenceVersion v.whitherVersion doc.componentReferences).isSome) := by
  simp only [createDiffInBaseComponent]
  split_ifs with h
  · simp_all
  · split <;> simp_all

theorem create_diff_rewrites_first_whence_entry (v : UpgradeVector) (doc : BaseComponentDocument) :
    ((createDiffInBaseComponent v (some doc)).1 = true ↔
      (∃ e ∈ doc.componentReferences, e.componentName = v.componentName) ∧
        ∃ e ∈ doc.componentReferences, e.version = v.whenceVersion) ∧
    ∀ pre e post, doc.componentReferences = pre ++ e :: post →
      (∀ x ∈ pre, x.version ≠ v.whenceVersion) → e.version = v.whenceVersion →
      (∃ e' ∈ doc.componentReferences, e'.componentName = v.componentName) →
      createDiffInBaseComponent v (some doc) =
        (true, some { doc with componentReferences :=
          pre ++ { e with version := v.whitherVersion } :: post }) := by
  constructor
  · rw [createDiffInBaseComponent_fst, Bool.and_eq_true, Option.isSome_iff_ne_none, ne_eq,
      rewriteWhence_eq_none_iff]
    simp
  · intro pre e post hdoc hpre he hname
    have hany : doc.componentReferences.any (·.componentName == v.componentName) = true := by
      simpa using hname
    simp only [createDiffInBaseComponent, hany, Bool.not_true, Bool.false_eq_true, if_false]
    rw [hdoc, rewriteWhence_of_split _ _ post he pre hpre]

def sharedVersionDocument : BaseComponentDocument :=
  ⟨[⟨"example.org/other", "1.0.0", []⟩, ⟨"example.org/dep", "1.0.0", []⟩], []⟩

def depUpgrade : UpgradeVector := ⟨"example.org/dep", "1.0.0", "2.0.0"⟩

theorem upgrade_rewrites_other_component :
    createDiffInBaseComponent depUpgrade (some sharedVersionDocument) =
      (true, some ⟨[⟨"example.org/other", "2.0.0", []⟩, ⟨"example.org/dep", "1.0.0", []⟩], []⟩) :=
  (create_diff_rewrites_first_whence_entry depUpgrade sharedVersionDocument).2 []
    ⟨"example.org/other", "1.0.0", []⟩ [⟨"example.org/dep", "1.0.0", []⟩] rfl (by simp) rfl
    ⟨⟨"example.org/dep", "1.0.0", []⟩, by decide, rfl⟩

end CcUtils.Actions.OcmUpgrade
