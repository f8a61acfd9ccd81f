import CcUtils.Concourse.Descriptor
import CcUtils.Concourse.Workers
import CcUtils.Model.Concourse
import Mathlib

namespace CcUtils.Concourse.ResultProcessor

open CcUtils.Python.Exceptions CcUtils.Concourse.Descriptor CcUtils.Model.Concourse

abbrev Target := String × String

structure Concourse where
  pipelines : Target → List String
  pipelineResources : Target → String → List String

def Concourse.deletePipeline (c : Concourse) (t : Target) (name : String) : Concourse :=
  { c with pipelines := fun t' => if t' = t then (c.pipelines t).filter (· ≠ name) else c.pipelines t' }

inductive ConcourseCall
  | deletePipeline (t : Target) (name : String)
  | unpausePipeline (t : Target) (name : String)
  | triggerResourceCheck (t : Target) (pipeline resource : String)
  | orderPipelines (t : Target) (names : List String)
  deriving DecidableEq

structure ReplicationResultProcessor where
  unpauseNewPipelines : Bool
  removePipelines : Bool
  removePipelinesFilter : Option (String → Bool)
  reorderPipelines : Bool
  jobMapping : Option JobMapping

def ReplicationResultProcessor.new (unpauseNewPipelines removePipelines : Bool)
    (removePipelinesFilter : Option (String → Bool)) (reorderPipelines : Bool)
    (jobMapping : Option JobMapping) : ReplicationResultProcessor :=
  { unpauseNewPipelines, removePipelinesFilter, reorderPipelines, jobMapping
    removePipelines :=
      if jobMapping.any (·.cleanupPolicy = .noCleanup) then false else removePipelines }

def addResult : List (Target × List DeployResult) → DeployResult → List (Target × List DeployResult)
  | [], r => [(r.definitionDescriptor.concourseTarget, [r])]
  | (k, rs) :: gs, r =>
    if k = r.definitionDescriptor.concourseTarget then (k, rs ++ [r]) :: gs
    else (k, rs) :: addResult gs r

def concourseTargetResults (results : List DeployResult) : List (Target × List DeployResult) :=
  results.foldl addResult []

def failedDescriptors (results : List DeployResult) : List DeployResult :=
  results.filter fun r => !r.deployStatus.has .succeeded

def pipelinesToRemove (p : ReplicationResultProcessor) (existing : List String)
    (results : List DeployResult) : List String :=
  (existing.dedup.filter fun n => n ∉ results.map (·.definitionDescriptor.pipelineName)).filter
    fun n => match p.removePipelinesFilter with
      | some f => !f n
      | none => true

def initialiseNewPipelineResources (p : ReplicationResultProcessor) (c : Concourse) (t : Target)
    (results : List DeployResult) : List ConcourseCall :=
  (results.filter (·.deployStatus.has .created)).flatMap fun r =>
    let name := r.definitionDescriptor.pipelineName
    (if p.unpauseNewPipelines then [.unpausePipeline t name] else []) ++
      (c.pipelineResources t name).map (.triggerResourceCheck t name)

def processTarget (p : ReplicationResultProcessor) (c : Concourse) (t : Target)
    (results : List DeployResult) : Concourse × List ConcourseCall :=
  let toRemove := if p.removePipelines then pipelinesToRemove p (c.pipelines t) results else []
  let c' := toRemove.foldl (fun c n => c.deletePipeline t n) c
  (c', toRemove.map (.deletePipeline t) ++ initialiseNewPipelineResources p c' t results ++
    if p.reorderPipelines then [.orderPipelines t ((c'.pipelines t).mergeSort fun a b => decide (a ≤ b))]
    else [])

def processTargets (p : ReplicationResultProcessor) :
    Concourse → List (Target × List DeployResult) → Concourse × List ConcourseCall
  | c, [] => (c, [])
  | c, (t, rs) :: gs =>
    let here := processTarget p c t rs
    let rest := processTargets p here.1 gs
    (rest.1, here.2 ++ rest.2)

def ignoreExceptions : List ExcClass :=
  [.arithmeticError, .attributeError, .bufferError, .eofError, .importError, .memoryError,
    .nameError, .osError, .referenceError, .recursionError, .syntaxError, .typeError]

/-- `should_notify_pipeline_owners`: `type(exception) in ignore_exceptions` compares the
exact class of the descriptor's exception (`None` is in no class). -/
def shouldNotifyPipelineOwners (r : DeployResult) : Bool :=
  if r.deployStatus.has .succeeded then false
  else match r.definitionDescriptor.exception with
    | some e => !ignoreExceptions.contains e.cls
    | none => true

def pipelineNameAttributeError : PyExc :=
  ⟨.attributeError, "'DeployResult' object has no attribute 'pipeline_name'"⟩

/-- The notification loop: `notify` is `_notify_broken_definition_owners`, which may raise.
The log line of the skip branch raises before `continue`. -/
def notifyOwners (notify : DeployResult → Except PyExc Unit) :
    Bool → List DeployResult → Except PyExc Bool
  | allOk, [] => .ok allOk
  | allOk, r :: rs =>
    if !shouldNotifyPipelineOwners r then .error pipelineNameAttributeError
    else match notify r with
      | .ok () => notifyOwners notify allOk rs
      | .error e => if e.isException then notifyOwners notify false rs else .error e

structure Outcome where
  processor : ReplicationResultProcessor
  concourse : Concourse
  calls : List ConcourseCall
  result : Except PyExc Bool

def processResults (p : ReplicationResultProcessor) (notify : DeployResult → Except PyExc Unit)
    (c : Concourse) (results : List DeployResult) : Outcome :=
  let failed := failedDescriptors results
  let p' := if failed.length > 0 then { p with removePipelines := false } else p
  let targets := processTargets p' c (concourseTargetResults results)
  ⟨p', targets.1, targets.2, if failed.length = 0 then .ok true else notifyOwners notify true failed⟩

def processResultsRuns (notify : DeployResult → Except PyExc Unit) :
    ReplicationResultProcessor → Concourse → List (List DeployResult) →
      ReplicationResultProcessor × Concourse
  | p, c, [] => (p, c)
  | p, c, rs :: bs =>
    processResultsRuns notify (processResults p notify c rs).processor
      (processResults p notify c rs).concourse bs

def groupOf (results : List DeployResult) (t : Target) : List DeployResult :=
  results.filter (·.definitionDescriptor.concourseTarget = t)

theorem addResult_keys (gs : List (Target × List DeployResult)) (r : DeployResult) :
    (addResult gs r).map Prod.fst =
      if r.definitionDescriptor.concourseTarget ∈ gs.map Prod.fst then gs.map Prod.fst
      else gs.map Prod.fst ++ [r.definitionDescriptor.concourseTarget] := by
  induction gs with
  | nil => rfl
  | cons g gs ih =>
    obtain ⟨k, rs⟩ := g
    by_cases hk : k = r.definitionDescriptor.concourseTarget
    · simp [addResult, ← hk]
    · simp only [addResult, hk, if_false, List.map_cons, ih, List.mem_cons]
      split <;> simp_all [eq_comm]

theorem mem_addResult {gs : List (Target × List DeployResult)} {r : DeployResult} {k : Target}
    {g : List DeployResult} (hgs : (gs.map Prod.fst).Nodup) (h : (k, g) ∈ addResult gs r) :
    ((k, g) ∈ gs ∧ k ≠ r.definitionDescriptor.concourseTarget) ∨
      (k = r.definitionDescriptor.concourseTarget ∧
        ((k ∉ gs.map Prod.fst ∧ g = [r]) ∨ ∃ g₀, (k, g₀) ∈ gs ∧ g = g₀ ++ [r])) := by
  induction gs with
  | nil =>
    simp only [addResult, List.mem_singleton, Prod.mk.injEq] at h
    exact .inr ⟨h.1, .inl ⟨by simp, h.2⟩⟩
  | cons g' gs ih =>
    obtain ⟨k', rs⟩ := g'
    simp only [List.map_cons, List.nodup_cons] at hgs
    by_cases hk : k' = r.definitionDescriptor.concourseTarget
    · subst hk
      simp only [addResult, if_true, List.mem_cons, Prod.mk.injEq] at h
      rcases h with ⟨rfl, rfl⟩ | h
      · exact .inr ⟨rfl, .inr ⟨rs, List.mem_cons_self _ _, rfl⟩⟩
      · refine .inl ⟨List.mem_cons_of_mem _ h, fun hk => hgs.1 ?_⟩
        exact hk ▸ List.mem_map_of_mem Prod.fst h
    · simp only [addResult, hk, if_false, List.mem_cons, Prod.mk.injEq] at h
      rcases h with ⟨rfl, rfl⟩ | h
      · exact .inl ⟨List.mem_cons_self _ _, hk⟩
      · rcases ih hgs.2 h with ⟨hm, hne⟩ | ⟨rfl, ⟨hn, rfl⟩ | ⟨g₀, hm, rfl⟩⟩
        · exact .inl ⟨List.mem_cons_of_mem _ hm, hne⟩
        · exact .inr ⟨rfl, .inl ⟨by simp [hn, Ne.symm hk], rfl⟩⟩
        · exact .inr ⟨rfl, .inr ⟨g₀, List.mem_cons_of_mem _ hm, rfl⟩⟩

theorem target_mem_addResult (gs : List (Target × List DeployResult)) (r : DeployResult) :
    ∀ k ∈ r.definitionDescriptor.concourseTarget :: gs.map Prod.fst,
      k ∈ (addResult gs r).map Prod.fst := by
  rw [addResult_keys]
  split <;> simp_all

theorem concourseTargetResults_spec (results : List DeployResult) :
    ((concourseTargetResults results).map Prod.fst).Nodup ∧
    (∀ t g, (t, g) ∈ concourseTargetResults results → g = groupOf results t) ∧
    (∀ x ∈ results, x.definitionDescriptor.concourseTarget ∈
      (concourseTargetResults results).map Prod.fst) ∧
    (∀ t ∈ (concourseTargetResults results).map Prod.fst,
      ∃ x ∈ results, x.definitionDescriptor.concourseTarget = t) := by
  induction results using List.reverseRecOn with
  | nil => simp [concourseTargetResults]
  | append_singleton rs r ih =>
    obtain ⟨hnd, hg, hk, hx⟩ := ih
    simp only [concourseTargetResults, List.foldl_append, List.foldl_cons, List.foldl_nil] at *
    refine ⟨?_, fun t g h => ?_, fun x hx => ?_, fun t ht => ?_⟩
    · rw [addResult_keys]
      split
      · exact hnd
      · exact hnd.append (List.nodup_singleton _) (List.disjoint_singleton.mpr ‹_›)
    · simp only [groupOf, List.filter_append, List.filter_singleton]
      rcases mem_addResult hnd h with ⟨hm, hne⟩ | ⟨rfl, ⟨hn, rfl⟩ | ⟨g₀, hm, rfl⟩⟩
      · simp [hg t g hm, groupOf, Ne.symm hne]
      · have : rs.filter (·.definitionDescriptor.concourseTarget = r.definitionDescriptor.concourseTarget) = [] :=
          List.filter_eq_nil_iff.mpr fun x hx hxt => hn (of_decide_eq_true hxt ▸ hk x hx)
        simp [this]
      · simp [hg _ g₀ hm, groupOf]
    · rcases List.mem_append.mp hx with hx | hx
      · exact target_mem_addResult _ r _ (List.mem_cons_of_mem _ (hk x hx))
      · rw [List.mem_singleton.mp hx]
        exact target_mem_addResult _ r _ (List.mem_cons_self _ _)
    · rw [addResult_keys] at ht
      split at ht
      · obtain ⟨x, hm, hxt⟩ := hx t ht
        exact ⟨x, List.mem_append_left _ hm, hxt⟩
      · rcases List.mem_append.mp ht with ht | ht
        · obtain ⟨x, hm, hxt⟩ := hx t ht
          exact ⟨x, List.mem_append_left _ hm, hxt⟩
        · exact ⟨r, by simp, (List.mem_singleton.mp ht).symm⟩

theorem mem_pipelinesToRemove {p : ReplicationResultProcessor} {existing : List String}
    {results : List DeployResult} {n : String} :
    n ∈ pipelinesToRemove p existing results ↔ n ∈ existing ∧
      n ∉ results.map (·.definitionDescriptor.pipelineName) ∧
      ∀ f, p.removePipelinesFilter = some f → f n = false := by
  unfold pipelinesToRemove
  cases p.removePipelinesFilter <;> simp [and_comm]

theorem deletePipelines_pipelines_ne {t t' : Target} (h : t ≠ t') (names : List String)
    (c : Concourse) : (names.foldl (fun c n => c.deletePipeline t' n) c).pipelines t = c.pipelines t := by
  induction names generalizing c with
  | nil => rfl
  | cons n names ih => rw [List.foldl_cons, ih]; simp [Concourse.deletePipeline, h]

theorem mem_processTarget_delete {p : ReplicationResultProcessor} {c : Concourse} {t t' : Target}
    {rs : List DeployResult} {n : String} :
    .deletePipeline t' n ∈ (processTarget p c t rs).2 ↔
      t = t' ∧ p.removePipelines = true ∧ n ∈ pipelinesToRemove p (c.pipelines t) rs := by
  have hinit : ∀ c', .deletePipeline t' n ∉ initialiseNewPipelineResources p c' t rs := by
    simp [initialiseNewPipelineResources]
  have horder : ∀ l : List ConcourseCall, (∀ x ∈ l, ∀ n', x ≠ .deletePipeline t' n') →
      .deletePipeline t' n ∉ l := fun l hl h => hl _ h n rfl
  simp only [processTarget, List.mem_append, hinit, or_false]
  rw [or_iff_left (horder _ (by split <;> simp))]
  split
  · simp only [List.mem_map, ConcourseCall.deletePipeline.injEq, true_and, *]
    exact ⟨fun ⟨_, hm, ht, hn⟩ => ⟨ht, hn ▸ hm⟩, fun ⟨ht, hm⟩ => ⟨n, hm, ht, rfl⟩⟩
  · simp [*]

theorem mem_processTargets_delete (p : ReplicationResultProcessor) {gs : List (Target × List DeployResult)}
    (hnd : (gs.map Prod.fst).Nodup) (c : Concourse) {t : Target} {n : String} :
    .deletePipeline t n ∈ (processTargets p c gs).2 ↔ p.removePipelines = true ∧
      ∃ g, (t, g) ∈ gs ∧ n ∈ pipelinesToRemove p (c.pipelines t) g := by
  induction gs generalizing c with
  | nil => simp [processTargets]
  | cons g gs ih =>
    obtain ⟨t₀, g₀⟩ := g
    simp only [List.map_cons, List.nodup_cons] at hnd
    simp only [processTargets, List.mem_append, mem_processTarget_delete, ih hnd.2, List.mem_cons,
      Prod.mk.injEq]
    constructor
    · rintro (⟨rfl, hr, hn⟩ | ⟨hr, g, hm, hn⟩)
      · exact ⟨hr, g₀, .inl ⟨rfl, rfl⟩, hn⟩
      · have hne : t ≠ t₀ := fun h => hnd.1 (h ▸ List.mem_map_of_mem Prod.fst hm)
        rw [processTarget, deletePipelines_pipelines_ne hne] at hn
        exact ⟨hr, g, .inr hm, hn⟩
    · rintro ⟨hr, g, ⟨rfl, rfl⟩ | hm, hn⟩
      · exact .inl ⟨rfl, hr, hn⟩
      · have hne : t ≠ t₀ := fun h => hnd.1 (h ▸ List.mem_map_of_mem Prod.fst hm)
        refine .inr ⟨hr, g, hm, ?_⟩
        rwa [processTarget, deletePipelines_pipelines_ne hne]

theorem processResults_processor (p : ReplicationResultProcessor)
    (notify : DeployResult → Except PyExc Unit) (c : Concourse) (rs : List DeployResult) :
    (processResults p notify c rs).processor =
      { p with removePipelines := p.removePipelines && (failedDescriptors rs).isEmpty } := by
  unfold processResults
  cases h : failedDescriptors rs <;> simp

theorem processResultsRuns_processor (notify : DeployResult → Except PyExc Unit)
    (p : ReplicationResultProcessor) (c : Concourse) (bs : List (List DeployResult)) :
    (processResultsRuns notify p c bs).1 =
      { p with removePipelines := p.removePipelines && bs.all (failedDescriptors · |>.isEmpty) } := by
  induction bs generalizing p c with
  | nil => simp [processResultsRuns]
  | cons rs bs ih => simp [processResultsRuns, ih, processResults_processor, Bool.and_assoc]

theorem mem_processResults_delete (p : ReplicationResultProcessor)
    (notify : DeployResult → Except PyExc Unit) (c : Concourse) (results : List DeployResult)
    (t : Target) (n : String) :
    .deletePipeline t n ∈ (processResults p notify c results).calls ↔
      p.removePipelines = true ∧ (failedDescriptors results).isEmpty ∧
      (∃ x ∈ results, x.definitionDescriptor.concourseTarget = t) ∧ n ∈ c.pipelines t ∧
      n ∉ (groupOf results t).map (·.definitionDescriptor.pipelineName) ∧
      ∀ f, p.removePipelinesFilter = some f → f n = false := by
  obtain ⟨hnd, hg, hk, hkx⟩ := concourseTargetResults_spec results
  have hcalls : (processResults p notify c results).calls =
      (processTargets { p with removePipelines := p.removePipelines && (failedDescriptors results).isEmpty } c
        (concourseTargetResults results)).2 := by
    unfold processResults
    cases failedDescriptors results <;> simp
  rw [hcalls, mem_processTargets_delete _ hnd]
  simp only [Bool.and_eq_true, mem_pipelinesToRemove]
  constructor
  · rintro ⟨⟨hr, hf⟩, g, hm, hn, hname, hfil⟩
    obtain rfl := hg t g hm
    exact ⟨hr, hf, hkx t (List.mem_map_of_mem Prod.fst hm), hn, hname, hfil⟩
  · rintro ⟨hr, hf, ⟨x, hx, rfl⟩, hn, hname, hfil⟩
    obtain ⟨⟨t, g⟩, hm, rfl⟩ := List.mem_map.mp (hk x hx)
    exact ⟨⟨hr, hf⟩, g, hm, hn, hg _ g hm ▸ hname, hfil⟩

theorem mem_failedDescriptors_iff_not_succeeded {results : List DeployResult} :
    (failedDescriptors results).isEmpty ↔ ∀ x ∈ results, x.deployStatus.has .succeeded = true := by
  simp [failedDescriptors, List.isEmpty_iff, List.filter_eq_nil_iff]

theorem ne_failed_of_has_succeeded {s : DeployStatus} (h : s.has .succeeded = true) :
    s ≠ .failed := by
  rintro rfl
  exact absurd h (by decide)

theorem new_removePipelines (unpauseNewPipelines removePipelines : Bool)
    (removePipelinesFilter : Option (String → Bool)) (reorderPipelines : Bool)
    (jobMapping : Option JobMapping) :
    (ReplicationResultProcessor.new unpauseNewPipelines removePipelines removePipelinesFilter
      reorderPipelines jobMapping).removePipelines = true ↔
      removePipelines = true ∧ ∀ m, jobMapping = some m → m.cleanupPolicy ≠ .noCleanup := by
  unfold ReplicationResultProcessor.new
  cases jobMapping <;> simp [and_comm]

theorem process_results_deletes_only_if (unpauseNewPipelines removePipelines : Bool)
    (removePipelinesFilter : Option (String → Bool)) (reorderPipelines : Bool)
    (jobMapping : Option JobMapping) (notify : DeployResult → Except PyExc Unit)
    (c₀ : Concourse) (earlier : List (List DeployResult)) (c : Concourse)
    (results : List DeployResult) (t : Target) (n : String)
    (h : .deletePipeline t n ∈ (processResults (processResultsRuns notify
      (.new unpauseNewPipelines removePipelines removePipelinesFilter reorderPipelines jobMapping)
      c₀ earlier).1 notify c results).calls) :
    removePipelines = true ∧ (∀ m, jobMapping = some m → m.cleanupPolicy ≠ .noCleanup) ∧
    (∀ x ∈ results, x.deployStatus ≠ .failed) ∧ n ∈ c.pipelines t ∧
    (∀ x ∈ results, x.definitionDescriptor.concourseTarget = t →
      x.definitionDescriptor.pipelineName ≠ n) ∧
    (∀ f, removePipelinesFilter = some f → f n = false) := by
  rw [processResultsRuns_processor, mem_processResults_delete] at h
  obtain ⟨hr, hf, -, hn, hname, hfil⟩ := h
  simp only [Bool.and_eq_true, new_removePipelines] at hr
  refine ⟨hr.1.1, hr.1.2, fun x hx => ne_failed_of_has_succeeded
    (mem_failedDescriptors_iff_not_succeeded.mp hf x hx), hn, fun x hx ht hxn => hname ?_, hfil⟩
  exact List.mem_map.mpr ⟨x, List.mem_filter.mpr ⟨hx, by simpa using ht⟩, hxn⟩

theorem stale_pipeline_deleted :
    .deletePipeline ("cfg", "team") "stale" ∈ (processResults (processResultsRuns (fun _ => .ok ())
      (.new true true none false none) ⟨fun _ => ["stale"], fun _ _ => []⟩ []).1 (fun _ => .ok ())
      ⟨fun _ => ["stale"], fun _ _ => []⟩
      [⟨⟨"app", "cfg", "team", none, none⟩, .succeeded, none⟩]).calls ∧
    (true = true ∧ (∀ m, (none : Option JobMapping) = some m → m.cleanupPolicy ≠ .noCleanup) ∧
      (∀ x ∈ [(⟨⟨"app", "cfg", "team", none, none⟩, .succeeded, none⟩ : DeployResult)],
        x.deployStatus ≠ .failed) ∧ "stale" ∈ ["stale"] ∧
      (∀ x ∈ [(⟨⟨"app", "cfg", "team", none, none⟩, .succeeded, none⟩ : DeployResult)],
        x.definitionDescriptor.concourseTarget = ("cfg", "team") →
        x.definitionDescriptor.pipelineName ≠ "stale") ∧
      (∀ f, (none : Option (String → Bool)) = some f → f "stale" = false)) := by
  have h : ConcourseCall.deletePipeline ("cfg", "team") "stale" ∈ (processResults
      (processResultsRuns (fun _ => .ok ()) (.new true true none false none)
        ⟨fun _ => ["stale"], fun _ _ => []⟩ []).1 (fun _ => .ok ())
      ⟨fun _ => ["stale"], fun _ _ => []⟩
      [⟨⟨"app", "cfg", "team", none, none⟩, .succeeded, none⟩]).calls :=
    (mem_processResults_delete _ _ _ _ _ _).mpr ⟨rfl, rfl, ⟨_, List.mem_singleton_self _, rfl⟩,
      List.mem_singleton_self _, by decide, fun _ h => by cases h⟩
  exact ⟨h, process_results_deletes_only_if true true none false none _ _ [] _ _ _ _ h⟩

theorem not_mem_groupOf_names {results : List DeployResult} {t : Target} {n : String} :
    n ∉ (groupOf results t).map (·.definitionDescriptor.pipelineName) ↔
      ∀ x ∈ results, x.definitionDescriptor.concourseTarget = t →
        x.definitionDescriptor.pipelineName ≠ n := by
  simp [groupOf]

theorem skipped_result_blocks_cleanup :
    (∀ x ∈ [(⟨⟨"foo", "cfg", "team", none, none⟩, .skipped,
        some (.text "duplicate pipeline name: foo")⟩ : DeployResult)], x.deployStatus ≠ .failed) ∧
    "stale" ∈ ["stale"] ∧
    (∀ x ∈ [(⟨⟨"foo", "cfg", "team", none, none⟩, .skipped,
        some (.text "duplicate pipeline name: foo")⟩ : DeployResult)],
      x.definitionDescriptor.pipelineName ≠ "stale") ∧
    .deletePipeline ("cfg", "team") "stale" ∉ (processResults (.new true true none false none)
      (fun _ => .ok ()) ⟨fun _ => ["stale"], fun _ _ => []⟩
      [⟨⟨"foo", "cfg", "team", none, none⟩, .skipped,
        some (.text "duplicate pipeline name: foo")⟩]).calls := by
  refine ⟨by decide, List.mem_singleton_self _, by decide, ?_⟩
  rw [mem_processResults_delete]
  exact fun h => absurd h.2.1 (by decide)

theorem process_results_cleanup_exact (unpauseNewPipelines : Bool)
    (removePipelinesFilter : Option (String → Bool)) (reorderPipelines : Bool)
    (jobMapping : Option JobMapping)
    (hjm : ∀ m, jobMapping = some m → m.cleanupPolicy ≠ .noCleanup)
    (notify : DeployResult → Except PyExc Unit) (c₀ : Concourse)
    (earlier : List (List DeployResult)) (c : Concourse) (results : List DeployResult)
    (t : Target) (n : String) :
    .deletePipeline t n ∈ (processResults (processResultsRuns notify
      (.new unpauseNewPipelines true removePipelinesFilter reorderPipelines jobMapping)
      c₀ earlier).1 notify c results).calls ↔
    (∀ rs ∈ earlier ++ [results], ∀ x ∈ rs, x.deployStatus.has .succeeded = true) ∧
    (∃ x ∈ results, x.definitionDescriptor.concourseTarget = t) ∧ n ∈ c.pipelines t ∧
    (∀ x ∈ results, x.definitionDescriptor.concourseTarget = t →
      x.definitionDescriptor.pipelineName ≠ n) ∧
    (∀ f, removePipelinesFilter = some f → f n = false) := by
  have hnew := (new_removePipelines unpauseNewPipelines true removePipelinesFilter reorderPipelines
    jobMapping).mpr ⟨rfl, hjm⟩
  rw [processResultsRuns_processor, mem_processResults_delete, not_mem_groupOf_names]
  simp only [hnew, Bool.true_and, List.all_eq_true, mem_failedDescriptors_iff_not_succeeded,
    List.mem_append, List.mem_singleton]
  constructor
  · rintro ⟨he, hr, hx, hn, hname, hf⟩
    exact ⟨fun rs hrs => hrs.elim (he rs) (fun h => h ▸ hr), hx, hn, hname, hf⟩
  · rintro ⟨hall, hx, hn, hname, hf⟩
    exact ⟨fun rs h => hall rs (.inl h), hall _ (.inr rfl), hx, hn, hname, hf⟩

theorem cleanup_exact_without_job_mapping :
    (∀ m, (none : Option JobMapping) = some m → m.cleanupPolicy ≠ .noCleanup) ∧
    (.deletePipeline ("cfg", "team") "stale" ∈ (processResults (processResultsRuns (fun _ => .ok ())
      (.new true true none false none) ⟨fun _ => [], fun _ _ => []⟩ []).1 (fun _ => .ok ())
      ⟨fun _ => ["stale"], fun _ _ => []⟩
      [⟨⟨"app", "cfg", "team", none, none⟩, .succeeded, none⟩]).calls ↔
    (∀ rs ∈ [] ++ [[(⟨⟨"app", "cfg", "team", none, none⟩, .succeeded, none⟩ : DeployResult)]],
      ∀ x ∈ rs, x.deployStatus.has .succeeded = true) ∧
    (∃ x ∈ [(⟨⟨"app", "cfg", "team", none, none⟩, .succeeded, none⟩ : DeployResult)],
      x.definitionDescriptor.concourseTarget = ("cfg", "team")) ∧ "stale" ∈ ["stale"] ∧
    (∀ x ∈ [(⟨⟨"app", "cfg", "team", none, none⟩, .succeeded, none⟩ : DeployResult)],
      x.definitionDescriptor.concourseTarget = ("cfg", "team") →
      x.definitionDescriptor.pipelineName ≠ "stale") ∧
    (∀ f, (none : Option (String → Bool)) = some f → f "stale" = false)) :=
  ⟨(fun _ h => nomatch h), process_results_cleanup_exact true none false none
    (fun _ h => nomatch h) _ _ [] _ _ _ _⟩

theorem process_results_raises_on_ignored_exception (p : ReplicationResultProcessor)
    (notify : DeployResult → Except PyExc Unit) (c : Concourse) (d : DefinitionDescriptor)
    (e : PyExc) (hd : d.exception = some e) (he : e.cls ∈ ignoreExceptions) :
    (processResults p notify c [⟨d, .skipped, some (.exception e)⟩]).result =
      .error pipelineNameAttributeError := by
  have hs : DeployStatus.skipped.has .succeeded = false := by decide
  simp [processResults, failedDescriptors, hs, notifyOwners, shouldNotifyPipelineOwners, hd, he]

theorem os_error_skip_raises :
    (⟨"app", "cfg", "team", none, some ⟨.osError, "connection reset"⟩⟩ :
      DefinitionDescriptor).exception = some ⟨.osError, "connection reset"⟩ ∧
    ExcClass.osError ∈ ignoreExceptions ∧
    (processResults (.new true true none true none) (fun _ => .ok ())
      ⟨fun _ => ["app"], fun _ _ => []⟩
      [⟨⟨"app", "cfg", "team", none, some ⟨.osError, "connection reset"⟩⟩, .skipped,
        some (.exception ⟨.osError, "connection reset"⟩)⟩]).result =
      .error pipelineNameAttributeError :=
  ⟨rfl, by simp [ignoreExceptions],
    process_results_raises_on_ignored_exception _ _ _ _ _ rfl (by simp [ignoreExceptions])⟩

theorem notify_decision_uses_exact_descriptor_class :
    (∀ r : DeployResult, r.deployStatus.has .succeeded = false →
      (shouldNotifyPipelineOwners r = true ↔
        ∀ e, r.definitionDescriptor.exception = some e → e.cls ∉ ignoreExceptions)) ∧
    (∀ (st : Workers.Stages) (d : DefinitionDescriptor) (rr : RenderResult), d.exception = none →
      Workers.renderOf st d = .ok rr → rr.renderStatus ≠ .succeeded →
      shouldNotifyPipelineOwners (Workers.skippedResult d rr.errorDetails) = true) := by
  refine ⟨fun r hr => ?_, fun st d rr hd _ _ => ?_⟩
  · cases h : r.definitionDescriptor.exception <;> simp [shouldNotifyPipelineOwners, hr, h]
  · have hs : DeployStatus.skipped.has .succeeded = false := by decide
    simp [shouldNotifyPipelineOwners, Workers.skippedResult, hs, hd]

theorem os_error_subclass_and_render_error_notified :
    (⟨.fileNotFoundError, "cfg"⟩ : PyExc).isInstance .osError = true ∧
    shouldNotifyPipelineOwners ⟨⟨"app", "cfg", "team", none, some ⟨.fileNotFoundError, "cfg"⟩⟩,
      .skipped, some (.exception ⟨.fileNotFoundError, "cfg"⟩)⟩ = true ∧
    shouldNotifyPipelineOwners (Workers.skippedResult ⟨"app", "cfg", "team", none, none⟩
      (some (.traceback ⟨.osError, "connection reset"⟩))) = true := by
  have hstages : Workers.renderOf ⟨fun d => .ok d, fun d => .ok ⟨d, .failed,
      some (.traceback ⟨.osError, "connection reset"⟩), some ⟨.osError, "connection reset"⟩⟩,
      fun d => .ok ⟨d, .succeeded, none⟩⟩ ⟨"app", "cfg", "team", none, none⟩ =
      .ok ⟨⟨"app", "cfg", "team", none, none⟩, .failed,
        some (.traceback ⟨.osError, "connection reset"⟩), some ⟨.osError, "connection reset"⟩⟩ := rfl
  refine ⟨by decide, ?_, notify_decision_uses_exact_descriptor_class.2 _ _ _ rfl hstages (by decide)⟩
  exact (notify_decision_uses_exact_descriptor_class.1 _ (by decide)).mpr
    (fun e he => by cases he; decide)

end CcUtils.Concourse.ResultProcessor
