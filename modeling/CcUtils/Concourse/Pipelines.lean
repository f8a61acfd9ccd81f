import CcUtils.Concourse.Validation
import CcUtils.Concourse.Deployer

namespace CcUtils.Concourse.Pipelines

open CcUtils.Python.Exceptions CcUtils.Python.Effects CcUtils.Concourse.Descriptor
  CcUtils.Concourse.Workers CcUtils.Concourse.Deployer CcUtils.Concourse.Validation

/-- The stages `replicate_pipelines` gives the replicator: the descriptor preprocessor,
`Renderer.render` over the template engine, and `ConcourseDeployer.deploy`, whose calls the
replicator does not see. -/
def replicationStages (preprocess renderImpl : DefinitionDescriptor → Except PyExc DefinitionDescriptor)
    (cfg : ConcourseDeployer) (client : String → String → Except PyExc ConcourseApi) : Stages :=
  ⟨preprocess, Renderer.render renderImpl,
    fun d => (cfg.deploy client d).result.mapError Halt.toPyExc⟩

section Lemmas

variable {preprocess renderImpl : DefinitionDescriptor → Except PyExc DefinitionDescriptor}
  {cfg : ConcourseDeployer} {client : String → String → Except PyExc ConcourseApi}
  {d : DefinitionDescriptor}

theorem render_error_not_exception {e : PyExc} (h : Renderer.render renderImpl d = .error e) :
    e.isException = false := by
  unfold Renderer.render at h
  split at h
  · cases h
  · split at h
    · cases h
    · cases h
      exact Bool.eq_false_iff.mpr ‹_›

theorem render_stage_error {e : PyExc}
    (h : (preprocess d >>= Renderer.render renderImpl) = .error e) :
    preprocess d = .error e ∨ e.isException = false := by
  cases hp : preprocess d with
  | error e' =>
    rw [hp] at h
    exact .inl (congrArg _ (Except.error.inj h))
  | ok p =>
    rw [hp, except_ok_bind] at h
    exact .inr (render_error_not_exception h)

theorem deploy_stage_ok {res : DeployResult}
    (h : (replicationStages preprocess renderImpl cfg client).deploy d = .ok res) :
    (cfg.deploy client d).result = .ok res := by
  cases hd : (cfg.deploy client d).result with
  | ok res' =>
    simp only [replicationStages, hd, Except.mapError, Except.ok.injEq] at h
    rw [h]
  | error x => simp [replicationStages, hd, Except.mapError] at h

theorem deploy_stage_error {e : PyExc}
    (h : (replicationStages preprocess renderImpl cfg client).deploy d = .error e) :
    e.isException = false := by
  cases hd : (cfg.deploy client d).result with
  | ok res => simp [replicationStages, hd, Except.mapError] at h
  | error x =>
    obtain ⟨e', rfl, he'⟩ := deploy_result_error hd
    simp only [replicationStages, hd, Except.mapError, Except.error.injEq] at h
    exact h ▸ he'

theorem ok_of_status {res : DeployResult}
    (h : res.deployStatus = .succeeded ∨ res.deployStatus = DeployStatus.succeeded.or .created ∨
      res.deployStatus = .failed ∨ res.deployStatus = .skipped) :
    res.ok = .ok (res.deployStatus != .failed) := by
  rcases h with h | h | h | h <;> rw [DeployResult.ok, h] <;> rfl

end Lemmas

theorem replicate_pipelines_outcomes
    (preprocess renderImpl : DefinitionDescriptor → Except PyExc DefinitionDescriptor)
    (cfg : ConcourseDeployer) (client : String → String → Except PyExc ConcourseApi)
    (ds : List DefinitionDescriptor) (sched : List Nat) :
    (∀ e, collect (run (replicationStages preprocess renderImpl cfg client) ds (init ds)
        sched).tasks = some (.error e) →
      (∃ d ∈ ds, preprocess d = .error e) ∨ e.isException = false) ∧
    (∀ rs, collect (run (replicationStages preprocess renderImpl cfg client) ds (init ds)
        sched).tasks = some (.ok rs) → ∀ res ∈ rs,
      (res.deployStatus = .succeeded ∨ res.deployStatus = DeployStatus.succeeded.or .created ∨
        res.deployStatus = .failed ∨ res.deployStatus = .skipped) ∧
      res.ok = .ok (res.deployStatus != .failed)) := by
  have hinv := run_inv (inv_init : Inv (replicationStages preprocess renderImpl cfg client) ds
    (init ds)) sched
  refine ⟨fun e h => ?_, fun rs h res hres => ?_⟩
  · obtain ⟨d, hd, hr⟩ := raised_of_collect hinv h
    rcases hr with ⟨-, hr⟩ | ⟨-, -, -, hdep⟩
    · change preprocess d >>= Renderer.render renderImpl = .error e at hr
      exact (render_stage_error hr).imp (fun hp => ⟨d, hd, hp⟩) id
    · exact .inr (deploy_stage_error hdep)
  · obtain ⟨d, -, hw⟩ := workerResult_of_collect hinv h hres
    have hstatus : res.deployStatus = .succeeded ∨
        res.deployStatus = DeployStatus.succeeded.or .created ∨
        res.deployStatus = .failed ∨ res.deployStatus = .skipped := by
      cases hw with
      | deployed _ _ _ hdep =>
        rcases deploy_result_ok_cases (deploy_stage_ok hdep) with rfl | rfl | ⟨e, -, rfl⟩
        · exact .inl rfl
        · exact .inr (.inl rfl)
        · exact .inr (.inr (.inl rfl))
      | _ => exact .inr (.inr (.inr rfl))
    exact ⟨hstatus, ok_of_status hstatus⟩

end CcUtils.Concourse.Pipelines
