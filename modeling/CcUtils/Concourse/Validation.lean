import CcUtils.Concourse.Workers

namespace CcUtils.Concourse.Validation

open CcUtils.Python.Exceptions CcUtils.Concourse.Descriptor CcUtils.Concourse.Workers

def pipelineValidationError : ExcClass := .other "PipelineValidationError"

def strErrorDetails (formatTraceback : PyExc → String) : Option ErrorDetails → String
  | none => "None"
  | some (.text s) => s
  | some (.traceback e) => formatTraceback e
  | some (.exception e) => e.msg

/-- The results `process_results` rejects, `not r.deploy_status is DeployStatus.SUCCEEDED`: the
deployers return the member itself for a plain success and the `int` 9 for
`SUCCEEDED | CREATED`. -/
def failedResults (results : List DeployResult) : List DeployResult :=
  results.filter fun r => r.deployStatus ≠ .succeeded

def processResults (formatTraceback : PyExc → String) (results : List DeployResult) :
    Except PyExc Bool :=
  match failedResults results with
  | [] => .ok true
  | failed => .error ⟨pipelineValidationError, "\n".intercalate (failed.map fun r =>
      r.definitionDescriptor.pipelineName ++ ": " ++ strErrorDetails formatTraceback r.errorDetails)⟩

/-- `PipelineReplicator.replicate` with a result processor, on the phases of a run: the
results collected from `executor.map` (a worker's exception re-raised), then processed. -/
def replicate {β : Type} (process : List DeployResult → Except PyExc β) (ts : List Phase) :
    Option (Except PyExc β) :=
  (collect ts).map (· >>= process)

def renderedName (st : Stages) (d : DefinitionDescriptor) : Option String :=
  match renderOf st d with
  | .ok r => some r.definitionDescriptor.pipelineName
  | .error _ => none

def deployStatusOf (st : Stages) (d : DefinitionDescriptor) : Option DeployStatus :=
  match renderOf st d with
  | .ok r =>
    if r.renderStatus = .succeeded then
      match st.deploy r.definitionDescriptor with
      | .ok res => some res.deployStatus
      | .error _ => none
    else none
  | .error _ => none

def Deployable (st : Stages) (ds : List DefinitionDescriptor) : Prop :=
  (∀ d ∈ ds, d.exception = none ∧ deployStatusOf st d = some .succeeded) ∧
    (ds.map (renderedName st)).Nodup

instance (st : Stages) (ds : List DefinitionDescriptor) : Decidable (Deployable st ds) :=
  inferInstanceAs (Decidable (_ ∧ _))

section Lemmas

variable {st : Stages} {ds : List DefinitionDescriptor} {d : DefinitionDescriptor}
  {r : RenderResult} {f : PyExc → String} {results : List DeployResult}

theorem failedResults_eq_nil :
    failedResults results = [] ↔ ∀ res ∈ results, res.deployStatus = .succeeded := by
  simp [failedResults, List.filter_eq_nil_iff]

theorem processResults_eq_ok :
    processResults f results = .ok true ↔ ∀ res ∈ results, res.deployStatus = .succeeded := by
  rw [← failedResults_eq_nil, processResults]
  split <;> simp_all

theorem processResults_ok_or_error (f : PyExc → String) (results : List DeployResult) :
    processResults f results = .ok true ∨
      ∃ msg, processResults f results = .error ⟨pipelineValidationError, msg⟩ := by
  unfold processResults
  split
  · exact .inl rfl
  · exact .inr ⟨_, rfl⟩

theorem renderedName_of_ok (hr : renderOf st d = .ok r) :
    renderedName st d = some r.definitionDescriptor.pipelineName := by
  simp [renderedName, hr]

theorem deployStatusOf_eq_some {status : DeployStatus} :
    deployStatusOf st d = some status ↔ ∃ r res, renderOf st d = .ok r ∧
      r.renderStatus = .succeeded ∧ st.deploy r.definitionDescriptor = .ok res ∧
      res.deployStatus = status := by
  unfold deployStatusOf
  split
  · rename_i r hr
    split
    · split <;> simp_all
    · simp_all
  · simp_all

theorem eq_map_of_collect {ts : List Phase} {rs : List DeployResult}
    (h : collect ts = some (.ok rs)) : ts = rs.map fun res => .finished (.ok res) := by
  induction ts generalizing rs with
  | nil =>
    obtain rfl : [] = rs := by simpa [collect] using h
    rfl
  | cons p ts ih =>
    cases p with
    | finished o =>
      cases o with
      | ok res =>
        obtain ⟨x, hx, hrs⟩ := Option.map_eq_some'.mp h
        cases x with
        | ok rs' =>
          obtain rfl : res :: rs' = rs := Except.ok.inj hrs
          rw [ih hx, List.map_cons]
        | error e => cases hrs
      | error e => simp [collect] at h
    | _ => simp [collect] at h

theorem Deployable.index_eq (h : Deployable st ds) {i j : Nat} {di dj : DefinitionDescriptor}
    {ri rj : RenderResult} (hi : ds[i]? = some di) (hj : ds[j]? = some dj)
    (hri : renderOf st di = .ok ri) (hrj : renderOf st dj = .ok rj)
    (hn : ri.definitionDescriptor.pipelineName = rj.definitionDescriptor.pipelineName) :
    i = j :=
  List.getElem?_inj (by simpa using (List.getElem?_eq_some_iff.mp hi).1) h.2
    (by simp [hi, hj, renderedName_of_ok hri, renderedName_of_ok hrj, hn])

theorem Deployable.deploys (h : Deployable st ds) (hd : d ∈ ds) : d.exception = none ∧
    ∃ r res, renderOf st d = .ok r ∧ r.renderStatus = .succeeded ∧
      st.deploy r.definitionDescriptor = .ok res ∧ res.deployStatus = .succeeded :=
  (h.1 d hd).imp_right deployStatusOf_eq_some.mp

theorem Deployable.not_raised (h : Deployable st ds) (hd : d ∈ ds) (e : PyExc) :
    ¬ Raised st d e := by
  obtain ⟨-, r, res, hr, -, hdep, -⟩ := h.deploys hd
  rintro (⟨-, hr'⟩ | ⟨-, hr', -, hdep'⟩)
  · rw [hr] at hr'
    cases hr'
  · obtain rfl := Except.ok.inj (hr.symm.trans hr')
    rw [hdep] at hdep'
    cases hdep'

end Lemmas

section Run

variable {st : Stages} {ds : List DefinitionDescriptor} {s : State} {i : Nat}
  {d : DefinitionDescriptor} {r : RenderResult}

theorem holder_unique (hinv : Inv st ds s) {n : String} {j k : Nat}
    (hj : (n, j) ∈ s.pipelineNames) (hk : (n, k) ∈ s.pipelineNames) : k = j :=
  (Prod.mk.inj (List.inj_on_of_nodup_map hinv.names_nodup hk hj rfl)).2

theorem finished_of_done (hinv : Inv st ds s) (hdone : Done s) (hd : ds[i]? = some d) :
    ∃ o, s.tasks[i]? = some (.finished o) := by
  have hi : i < s.tasks.length := hinv.length ▸ (List.getElem?_eq_some_iff.mp hd).1
  obtain ⟨o, ho⟩ := hdone.finished (List.getElem?_eq_getElem hi)
  exact ⟨o, ho ▸ List.getElem?_eq_getElem hi⟩

theorem workerResult_of_collect (hinv : Inv st ds s) {rs : List DeployResult}
    (h : collect s.tasks = some (.ok rs)) {res : DeployResult} (hres : res ∈ rs) :
    ∃ d ∈ ds, WorkerResult st d res := by
  obtain ⟨i, hi⟩ := List.mem_iff_getElem?.mp hres
  have hp : s.tasks[i]? = some (.finished (.ok res)) := by simp [eq_map_of_collect h, hi]
  have hi' : i < ds.length := hinv.length ▸ (List.getElem?_eq_some_iff.mp hp).1
  exact ⟨ds[i], List.getElem_mem hi', hinv.phase i _ _ (List.getElem?_eq_getElem hi') hp⟩

theorem collect_error {ts : List Phase} {e : PyExc} (h : collect ts = some (.error e)) :
    ∃ k : Nat, ts[k]? = some (.finished (.error e)) := by
  induction ts with
  | nil => simp [collect] at h
  | cons p ts ih =>
    cases p with
    | finished o =>
      cases o with
      | error e' =>
        obtain rfl : e' = e := by simpa [collect] using h
        exact ⟨0, by simp⟩
      | ok res =>
        obtain ⟨x, hx, hxe⟩ := Option.map_eq_some'.mp h
        cases x with
        | ok rs => cases hxe
        | error e' =>
          cases hxe
          obtain ⟨k, hk⟩ := ih hx
          exact ⟨k + 1, by simpa using hk⟩
    | _ => simp [collect] at h

theorem raised_of_collect (hinv : Inv st ds s) {e : PyExc}
    (h : collect s.tasks = some (.error e)) : ∃ d ∈ ds, Raised st d e := by
  obtain ⟨k, hk⟩ := collect_error h
  have hk' : k < ds.length := hinv.length ▸ (List.getElem?_eq_some_iff.mp hk).1
  exact ⟨ds[k], List.getElem_mem hk', hinv.phase k _ _ (List.getElem?_eq_getElem hk') hk⟩

theorem outcome_of_sole (hinv : Inv st ds s) (hc : Claims st ds s) (hdone : Done s)
    (hd : ds[i]? = some d) (hx : d.exception = none) (hr : renderOf st d = .ok r)
    (hsole : ∀ j dj rj, ds[j]? = some dj → renderOf st dj = .ok rj →
      rj.definitionDescriptor.pipelineName = r.definitionDescriptor.pipelineName → j = i) :
    s.tasks[i]? = some (.finished (claimOutcome st d r)) := by
  obtain ⟨o, hp⟩ := finished_of_done hinv hdone hd
  obtain ⟨j, hj⟩ : ∃ j, (r.definitionDescriptor.pipelineName, j) ∈ s.pipelineNames := by
    rcases hc.settled i d r o hd hr hx hp with hn | ⟨-, hn⟩
    · exact ⟨i, hn⟩
    · obtain ⟨⟨n, j⟩, hj, rfl⟩ := List.mem_map.mp hn
      exact ⟨j, hj⟩
  obtain ⟨dj, rj, hdj, -, hrj, hnj, htj, -⟩ := hc.holder_done hdone hj
  obtain rfl := hsole j dj rj hdj hrj hnj
  obtain rfl : dj = d := Option.some.inj (hdj.symm.trans hd)
  obtain rfl : rj = r := Except.ok.inj (hrj.symm.trans hr)
  exact htj

theorem holds_of_not_skipped (hc : Claims st ds s) (hd : ds[i]? = some d)
    (hx : d.exception = none) (hr : renderOf st d = .ok r) {res : DeployResult}
    (hp : s.tasks[i]? = some (.finished (.ok res))) (hs : res.deployStatus ≠ .skipped) :
    (r.definitionDescriptor.pipelineName, i) ∈ s.pipelineNames := by
  rcases hc.settled i d r _ hd hr hx hp with hn | ⟨ho, -⟩
  · exact hn
  · cases ho
    exact absurd rfl hs

theorem deployed_of_not_skipped {res : DeployResult} (hw : WorkerResult st d res)
    (hs : res.deployStatus ≠ .skipped) : d.exception = none ∧
      ∃ r, renderOf st d = .ok r ∧ r.renderStatus = .succeeded ∧
        st.deploy r.definitionDescriptor = .ok res := by
  cases hw with
  | deployed hx hr hsucc hdep => exact ⟨hx, _, hr, hsucc, hdep⟩
  | _ => exact absurd rfl hs

theorem skipped_ne_succeeded : DeployStatus.skipped ≠ .succeeded := by decide

theorem deployable_of_succeeded (hinv : Inv st ds s) (hc : Claims st ds s)
    {rs : List DeployResult} (hts : s.tasks = rs.map fun res => .finished (.ok res))
    (hrs : ∀ res ∈ rs, res.deployStatus = .succeeded) : Deployable st ds := by
  have hres : ∀ (i : Nat) d, ds[i]? = some d → ∃ res : DeployResult, s.tasks[i]? = some (.finished (.ok res)) ∧
      res.deployStatus = .succeeded := by
    intro i d hd
    have hi : i < rs.length := by
      have hl := congrArg List.length hts
      rw [List.length_map, hinv.length] at hl
      exact hl ▸ (List.getElem?_eq_some_iff.mp hd).1
    exact ⟨rs[i], by simp [hts, hi], hrs _ (List.getElem_mem hi)⟩
  have hdeploy : ∀ (i : Nat) d, ds[i]? = some d → d.exception = none ∧ ∃ r,
      renderOf st d = .ok r ∧ (r.definitionDescriptor.pipelineName, i) ∈ s.pipelineNames ∧
      deployStatusOf st d = some .succeeded := by
    intro i d hd
    obtain ⟨res, hp, hs⟩ := hres i d hd
    have hne : res.deployStatus ≠ .skipped := hs ▸ skipped_ne_succeeded.symm
    obtain ⟨hx, r, hr, hsucc, hdep⟩ := deployed_of_not_skipped (hinv.phase i d _ hd hp) hne
    exact ⟨hx, r, hr, holds_of_not_skipped hc hd hx hr hp hne,
      deployStatusOf_eq_some.mpr ⟨r, res, hr, hsucc, hdep, hs⟩⟩
  refine ⟨fun d hd => ?_, List.nodup_iff_getElem?_ne_getElem?.mpr fun i j hij hj heq => ?_⟩
  · obtain ⟨i, hi⟩ := List.mem_iff_getElem?.mp hd
    obtain ⟨hx, -, -, -, hs⟩ := hdeploy i d hi
    exact ⟨hx, hs⟩
  · have hj' : j < ds.length := by simpa using hj
    obtain ⟨-, ri, hri, hni, -⟩ := hdeploy i ds[i] (List.getElem?_eq_getElem (by omega))
    obtain ⟨-, rj, hrj, hnj, -⟩ := hdeploy j ds[j] (List.getElem?_eq_getElem hj')
    have hn : ri.definitionDescriptor.pipelineName = rj.definitionDescriptor.pipelineName := by
      simpa [List.getElem?_eq_getElem (show i < ds.length by omega), List.getElem?_eq_getElem hj',
        renderedName_of_ok hri, renderedName_of_ok hrj] using heq
    rw [hn] at hni
    exact absurd (holder_unique hinv hni hnj) (by omega)

theorem succeeded_of_deployable (hinv : Inv st ds s) (hc : Claims st ds s) (hdone : Done s)
    (h : Deployable st ds) {rs : List DeployResult}
    (hts : s.tasks = rs.map fun res => .finished (.ok res)) :
    ∀ res ∈ rs, res.deployStatus = .succeeded := by
  intro res hres
  obtain ⟨i, hi⟩ := List.mem_iff_getElem?.mp hres
  have hp : s.tasks[i]? = some (.finished (.ok res)) := by simp [hts, hi]
  have hi' : i < ds.length := hinv.length ▸ (List.getElem?_eq_some_iff.mp hp).1
  obtain ⟨d, hd⟩ : ∃ d, ds[i]? = some d := ⟨_, List.getElem?_eq_getElem hi'⟩
  obtain ⟨hx, r, res', hr, hsucc, hdep, hs⟩ := h.deploys (List.getElem?_mem hd)
  have ho := outcome_of_sole hinv hc hdone hd hx hr fun j dj rj hdj hrj hn =>
    h.index_eq hdj hd hrj hr hn
  rw [hp, claimOutcome, if_pos hsucc, hdep] at ho
  cases ho
  exact hs

end Run

theorem validation_verdict_schedule_independent (st : Stages) (ds : List DefinitionDescriptor)
    (sched : List Nat) (formatTraceback : PyExc → String)
    (hdone : Done (run st ds (init ds) sched)) :
    (replicate (processResults formatTraceback) (run st ds (init ds) sched).tasks =
        some (.ok true) ↔ Deployable st ds) ∧
    (¬ Deployable st ds → ∃ e, replicate (processResults formatTraceback)
        (run st ds (init ds) sched).tasks = some (.error e)) := by
  have hinv := run_inv (inv_init : Inv st ds (init ds)) sched
  have hc := run_claims (inv_init : Inv st ds (init ds)) claims_init sched
  have hiff : replicate (processResults formatTraceback) (run st ds (init ds) sched).tasks =
      some (.ok true) ↔ Deployable st ds := by
    constructor
    · intro h
      obtain ⟨x, hx, hok⟩ := Option.map_eq_some'.mp h
      cases x with
      | error e => cases hok
      | ok rs =>
        exact deployable_of_succeeded hinv hc (eq_map_of_collect hx) (processResults_eq_ok.mp hok)
    · intro h
      rcases collect_done hinv.length hinv.phase hdone with ⟨rs, hcol, -⟩ | ⟨k, d, e, hd, -, hr, -⟩
      · simp only [replicate, hcol, Option.map_some']
        exact congrArg some (processResults_eq_ok.mpr
          (succeeded_of_deployable hinv hc hdone h (eq_map_of_collect hcol)))
      · exact absurd hr (h.not_raised (List.getElem?_mem hd) e)
  refine ⟨hiff, fun hnd => ?_⟩
  rcases collect_done hinv.length hinv.phase hdone with ⟨rs, hcol, -⟩ | ⟨-, -, e, -, -, -, -, hcol⟩
  · rcases processResults_ok_or_error formatTraceback rs with hok | ⟨msg, herr⟩
    · exact absurd (hiff.mp (by simp only [replicate, hcol, Option.map_some']; exact congrArg some hok)) hnd
    · exact ⟨_, by simp only [replicate, hcol, Option.map_some']; exact congrArg some herr⟩
  · exact ⟨e, by simp only [replicate, hcol, Option.map_some']; rfl⟩

theorem twins_validation_verdict :
    Done (run echoStages twinDescriptors (init twinDescriptors) [0, 1, 0, 0, 1]) ∧
    (replicate (processResults PyExc.msg)
        (run echoStages twinDescriptors (init twinDescriptors) [0, 1, 0, 0, 1]).tasks =
        some (.ok true) ↔ Deployable echoStages twinDescriptors) ∧
    (¬ Deployable echoStages twinDescriptors → ∃ e, replicate (processResults PyExc.msg)
        (run echoStages twinDescriptors (init twinDescriptors) [0, 1, 0, 0, 1]).tasks =
        some (.error e)) := by
  have hdone : Done (run echoStages twinDescriptors (init twinDescriptors) [0, 1, 0, 0, 1]) := by
    decide
  exact ⟨hdone, validation_verdict_schedule_independent _ _ _ _ hdone⟩

example : ¬ Deployable echoStages twinDescriptors ∧ Deployable echoStages [twinA] := by decide

end CcUtils.Concourse.Validation
