import CcUtils.Concourse.Descriptor
import CcUtils.Python.Effects

namespace CcUtils.Concourse.Deployer

open CcUtils.Python.Exceptions CcUtils.Python.Effects CcUtils.Concourse.Descriptor Trace

inductive SetPipelineResult
  | created
  | updated
  | other
  deriving DecidableEq, Repr

structure Response where
  statusCode : Nat
  content : String
  deriving DecidableEq, Repr

structure SetPipelineError where
  exc : PyExc
  response : Option Response
  deriving DecidableEq, Repr

/-- The client `ccc.concourse.client_from_cfg_name` returns for a team, as `deploy` uses it.
`set_pipeline` may answer a second attempt differently, so it is given the attempt (0 or 1). -/
structure ConcourseApi where
  setPipeline : Nat → String → Option String → Except SetPipelineError SetPipelineResult
  unpausePipeline : String → Except PyExc Unit
  exposePipeline : String → Except PyExc Unit

inductive ConcourseCall
  | setPipeline (name : String) (pipelineDefinition : Option String)
  | sleep
  | unpausePipeline (name : String)
  | exposePipeline (name : String)
  deriving DecidableEq, Repr

structure ConcourseDeployer where
  unpausePipelines : Bool
  unpauseNewPipelines : Bool := false
  exposePipelines : Bool := true
  deriving DecidableEq, Repr

def errContent : String :=
  "failed to save config: comparison with existing config failed during save"

def noResponseError : PyExc :=
  ⟨.attributeError, "\x27NoneType\x27 object has no attribute \x27status_code\x27"⟩

def apiCall {α : Type} (c : ConcourseCall) (x : Except PyExc α) : Trace ConcourseCall α := do
  emit c
  liftExcept x

/-- `api.set_pipeline(...)` under `except requests.exceptions.HTTPError as e`: a concurrent
save is answered by a second attempt after a random sleep; any other `HTTPError` is raised
again. -/
def setPipelineWithRetry (api : ConcourseApi) (name : String) (pipelineDefinition : Option String) :
    Trace ConcourseCall SetPipelineResult := do
  emit (.setPipeline name pipelineDefinition)
  match api.setPipeline 0 name pipelineDefinition with
  | .ok response => pure response
  | .error e =>
    if e.exc.isInstance .httpError then
      match e.response with
      | none => raise noResponseError
      | some response =>
        if response.statusCode = 500 ∧ response.content = errContent then do
          emit .sleep
          apiCall (.setPipeline name pipelineDefinition)
            ((api.setPipeline 1 name pipelineDefinition).mapError SetPipelineError.exc)
        else raise e.exc
    else raise e.exc

def unpause (cfg : ConcourseDeployer) (api : ConcourseApi) (name : String)
    (response : SetPipelineResult) : Trace ConcourseCall Unit :=
  if cfg.unpausePipelines then apiCall (.unpausePipeline name) (api.unpausePipeline name)
  else if cfg.unpauseNewPipelines ∧ response = .created then
    apiCall (.unpausePipeline name) (api.unpausePipeline name)
  else pure ()

def expose (cfg : ConcourseDeployer) (api : ConcourseApi) (name : String) :
    Trace ConcourseCall Unit :=
  if cfg.exposePipelines then apiCall (.exposePipeline name) (api.exposePipeline name)
  else pure ()

def deployStatus : SetPipelineResult → Trace ConcourseCall DeployStatus
  | .created => pure (DeployStatus.succeeded.or .created)
  | .updated => pure .succeeded
  | .other => raise ⟨.notImplementedError, ""⟩

def afterSetPipeline (cfg : ConcourseDeployer) (api : ConcourseApi) (d : DefinitionDescriptor)
    (response : SetPipelineResult) : Trace ConcourseCall DeployResult := do
  unpause cfg api d.pipelineName response
  expose cfg api d.pipelineName
  let status ← deployStatus response
  pure ⟨d, status, none⟩

def deployBody (cfg : ConcourseDeployer)
    (clientFromCfgName : String → String → Except PyExc ConcourseApi) (d : DefinitionDescriptor) :
    Trace ConcourseCall DeployResult := do
  let api ← liftExcept (clientFromCfgName d.concourseTargetCfg d.concourseTargetTeam)
  let response ← setPipelineWithRetry api d.pipelineName d.pipeline
  afterSetPipeline cfg api d response

def ConcourseDeployer.deploy (cfg : ConcourseDeployer)
    (clientFromCfgName : String → String → Except PyExc ConcourseApi) (d : DefinitionDescriptor) :
    Trace ConcourseCall DeployResult :=
  (deployBody cfg clientFromCfgName d).tryExceptAs .exception
    fun e => ⟨d, .failed, some (.traceback e)⟩

def retries (api : ConcourseApi) (name : String) (pipelineDefinition : Option String) : Bool :=
  match api.setPipeline 0 name pipelineDefinition with
  | .error e => e.exc.isInstance .httpError && e.response == some ⟨500, errContent⟩
  | .ok _ => false

def unpauses (cfg : ConcourseDeployer) (response : SetPipelineResult) : Bool :=
  cfg.unpausePipelines || cfg.unpauseNewPipelines && response == .created

section Lemmas

variable {α : Type} {api : ConcourseApi} {name : String} {p : Option String}
  {cfg : ConcourseDeployer} {d : DefinitionDescriptor} {r : SetPipelineResult}

@[simp] theorem apiCall_calls (c : ConcourseCall) (x : Except PyExc α) :
    (apiCall c x).calls = [c] := by
  simp [apiCall]

@[simp] theorem apiCall_result (c : ConcourseCall) (x : Except PyExc α) :
    (apiCall c x).result = (liftExcept x : Trace ConcourseCall α).result := by
  simp [apiCall]

theorem apiCall_raises (c : ConcourseCall) (x : Except PyExc α) : Raises (apiCall c x) :=
  Raises.bind (Raises.emit c) fun _ _ => Raises.liftExcept x

theorem setPipelineWithRetry_cases (api : ConcourseApi) (name : String) (p : Option String) :
    (∃ r, api.setPipeline 0 name p = .ok r ∧
      setPipelineWithRetry api name p = ⟨[.setPipeline name p], .ok r⟩) ∨
    (retries api name p = true ∧ setPipelineWithRetry api name p =
      ⟨[.setPipeline name p, .sleep, .setPipeline name p],
        (liftExcept ((api.setPipeline 1 name p).mapError SetPipelineError.exc) :
          Trace ConcourseCall SetPipelineResult).result⟩) ∨
    (retries api name p = false ∧ (∃ err, api.setPipeline 0 name p = .error err) ∧
      ∃ e, setPipelineWithRetry api name p = ⟨[.setPipeline name p], .error (.raised e)⟩) := by
  unfold setPipelineWithRetry retries
  cases api.setPipeline 0 name p with
  | ok r => exact .inl ⟨r, rfl, rfl⟩
  | error err =>
    refine .inr ?_
    by_cases hc : err.exc.isInstance .httpError = true ∧ err.response = some ⟨500, errContent⟩
    · obtain ⟨hh, hr⟩ := hc
      exact .inl ⟨by simp [hh, hr], by simp [hh, hr]⟩
    · refine .inr ⟨?_, ⟨err, rfl⟩, ?_⟩
      · cases h1 : err.exc.isInstance .httpError <;>
          cases h2 : (err.response == some ⟨500, errContent⟩) <;> simp_all
      · by_cases hh : err.exc.isInstance .httpError
        · cases hresp : err.response with
          | none => exact ⟨noResponseError, by simp [hh, hresp, raise]⟩
          | some resp =>
            have hne : ¬ (resp.statusCode = 500 ∧ resp.content = errContent) := fun ⟨h1, h2⟩ =>
              hc ⟨hh, by rw [hresp]; cases resp; simp_all⟩
            exact ⟨err.exc, by simp [hh, hresp, hne, raise]⟩
        · exact ⟨err.exc, by simp [hh, raise]⟩

theorem setPipelineWithRetry_raises : Raises (setPipelineWithRetry api name p) := by
  rcases setPipelineWithRetry_cases api name p with ⟨r, -, h⟩ | ⟨-, h⟩ | ⟨-, -, e, h⟩ <;>
    rw [h] <;> simp only [Raises]
  · simp
  · exact Raises.liftExcept _
  · simp

theorem setPipelineWithRetry_calls :
    (setPipelineWithRetry api name p).calls =
      if retries api name p then [.setPipeline name p, .sleep, .setPipeline name p]
      else [.setPipeline name p] := by
  rcases setPipelineWithRetry_cases api name p with ⟨r, hr, h⟩ | ⟨hret, h⟩ | ⟨hret, -, _, h⟩ <;>
    rw [h]
  · simp [retries, hr]
  · simp [hret]
  · simp [hret]

theorem setPipelineWithRetry_result_ok : (setPipelineWithRetry api name p).result = .ok r ↔
    if retries api name p then api.setPipeline 1 name p = .ok r
    else api.setPipeline 0 name p = .ok r := by
  rcases setPipelineWithRetry_cases api name p with ⟨r', hr, h⟩ | ⟨hret, h⟩ |
    ⟨hret, ⟨err, herr⟩, _, h⟩ <;> rw [h]
  · simp [retries, hr]
  · cases h1 : api.setPipeline 1 name p <;> simp [hret, Except.mapError, raise]
  · simp [hret, herr]

theorem unpause_eq : unpause cfg api name r =
    if unpauses cfg r then apiCall (.unpausePipeline name) (api.unpausePipeline name)
    else pure () := by
  unfold unpause unpauses
  by_cases hu : cfg.unpausePipelines <;> by_cases hn : cfg.unpauseNewPipelines <;>
    by_cases hc : r = .created <;> simp [hu, hn, hc]

theorem unpause_calls : (unpause cfg api name r).calls =
    if unpauses cfg r then [.unpausePipeline name] else [] := by
  rw [unpause_eq]
  split <;> simp

theorem unpause_result_ok : (unpause cfg api name r).result = .ok () ↔
    (unpauses cfg r = true → api.unpausePipeline name = .ok ()) := by
  rw [unpause_eq]
  split <;> simp_all

theorem expose_calls : (expose cfg api name).calls =
    if cfg.exposePipelines then [.exposePipeline name] else [] := by
  unfold expose
  split <;> simp

theorem expose_result_ok : (expose cfg api name).result = .ok () ↔
    (cfg.exposePipelines = true → api.exposePipeline name = .ok ()) := by
  unfold expose
  split <;> simp_all

theorem deployStatus_result_ok {status : DeployStatus} :
    (deployStatus r).result = .ok status ↔
      r = .created ∧ status = DeployStatus.succeeded.or .created ∨
        r = .updated ∧ status = .succeeded := by
  cases r <;> simp [deployStatus, raise, eq_comm]

theorem afterSetPipeline_raises : Raises (afterSetPipeline cfg api d r) := by
  unfold afterSetPipeline
  refine Raises.bind ?_ fun _ _ => Raises.bind ?_ fun _ _ => Raises.bind ?_ fun _ _ => Raises.pure _
  · rw [unpause_eq]
    split
    · exact apiCall_raises _ _
    · exact Raises.pure _
  · unfold expose
    split
    · exact apiCall_raises _ _
    · exact Raises.pure _
  · cases r
    · exact Raises.pure _
    · exact Raises.pure _
    · exact Raises.raise _

theorem afterSetPipeline_result_ok {res : DeployResult} :
    (afterSetPipeline cfg api d r).result = .ok res ↔
      (unpauses cfg r = true → api.unpausePipeline d.pipelineName = .ok ()) ∧
      (cfg.exposePipelines = true → api.exposePipeline d.pipelineName = .ok ()) ∧
      (r = .created ∧ res = ⟨d, DeployStatus.succeeded.or .created, none⟩ ∨
        r = .updated ∧ res = ⟨d, .succeeded, none⟩) := by
  simp only [afterSetPipeline, bind_result_ok, deployStatus_result_ok, pure_result,
    Except.ok.injEq]
  constructor
  · rintro ⟨⟨⟩, hu, ⟨⟩, he, s, hs, rfl⟩
    exact ⟨unpause_result_ok.mp hu, expose_result_ok.mp he,
      hs.imp (fun ⟨hr, hs⟩ => ⟨hr, hs ▸ rfl⟩) fun ⟨hr, hs⟩ => ⟨hr, hs ▸ rfl⟩⟩
  · rintro ⟨hu, he, ⟨hr, rfl⟩ | ⟨hr, rfl⟩⟩
    · exact ⟨(), unpause_result_ok.mpr hu, (), expose_result_ok.mpr he, _, .inl ⟨hr, rfl⟩, rfl⟩
    · exact ⟨(), unpause_result_ok.mpr hu, (), expose_result_ok.mpr he, _, .inr ⟨hr, rfl⟩, rfl⟩

theorem afterSetPipeline_emits : Emits (fun c => c = .unpausePipeline d.pipelineName ∨
    c = .exposePipeline d.pipelineName) (afterSetPipeline cfg api d r) := by
  refine Emits.bind (fun c hc => ?_) fun _ _ => Emits.bind (fun c hc => ?_) fun _ _ =>
    Emits.bind (fun c hc => ?_) fun _ _ => Emits.pure _
  · rw [unpause_calls] at hc
    split at hc <;> simp_all
  · rw [expose_calls] at hc
    split at hc <;> simp_all
  · cases r <;> simp [deployStatus, raise] at hc

theorem mem_afterSetPipeline_unpause :
    .unpausePipeline d.pipelineName ∈ (afterSetPipeline cfg api d r).calls ↔
      unpauses cfg r = true := by
  constructor
  · intro h
    rcases mem_bind_calls h with hc | ⟨_, -, hc⟩
    · rw [unpause_calls] at hc
      split at hc <;> simp_all
    · rcases mem_bind_calls hc with hc | ⟨_, -, hc⟩
      · rw [expose_calls] at hc
        split at hc <;> simp_all
      · rcases mem_bind_calls hc with hc | ⟨_, -, hc⟩
        · cases r <;> simp [deployStatus, raise] at hc
        · simp at hc
  · intro h
    exact mem_bind_calls_left (by simp [unpause_calls, h])

theorem mem_afterSetPipeline_expose :
    .exposePipeline d.pipelineName ∈ (afterSetPipeline cfg api d r).calls ↔
      cfg.exposePipelines = true ∧
        (unpauses cfg r = true → api.unpausePipeline d.pipelineName = .ok ()) := by
  constructor
  · intro h
    rcases mem_bind_calls h with hc | ⟨_, hu, hc⟩
    · rw [unpause_calls] at hc
      split at hc <;> simp_all
    · refine ⟨?_, unpause_result_ok.mp hu⟩
      rcases mem_bind_calls hc with hc | ⟨_, -, hc⟩
      · rw [expose_calls] at hc
        split at hc <;> simp_all
      · rcases mem_bind_calls hc with hc | ⟨_, -, hc⟩
        · cases r <;> simp [deployStatus, raise] at hc
        · simp at hc
  · rintro ⟨he, hu⟩
    exact mem_bind_calls_right (unpause_result_ok.mpr hu)
      (mem_bind_calls_left (by simp [expose_calls, he]))

end Lemmas

section Deploy

variable {cfg : ConcourseDeployer} {client : String → String → Except PyExc ConcourseApi}
  {d : DefinitionDescriptor} {api : ConcourseApi}

theorem deployBody_of_client_error {e : PyExc}
    (h : client d.concourseTargetCfg d.concourseTargetTeam = .error e) :
    deployBody cfg client d = ⟨[], .error (.raised e)⟩ := by
  rw [deployBody, h, liftExcept_error]
  exact bind_of_error rfl _

theorem deployBody_of_client (h : client d.concourseTargetCfg d.concourseTargetTeam = .ok api) :
    deployBody cfg client d =
      setPipelineWithRetry api d.pipelineName d.pipeline >>= afterSetPipeline cfg api d := by
  rw [deployBody, h, liftExcept_ok, Trace.pure_bind]

theorem deployBody_raises : Raises (deployBody cfg client d) :=
  Raises.bind (Raises.liftExcept _) fun _ _ =>
    Raises.bind setPipelineWithRetry_raises fun _ _ => afterSetPipeline_raises

theorem deployBody_result_ok {res : DeployResult} :
    (deployBody cfg client d).result = .ok res ↔
      ∃ api r, client d.concourseTargetCfg d.concourseTargetTeam = .ok api ∧
        (setPipelineWithRetry api d.pipelineName d.pipeline).result = .ok r ∧
        (afterSetPipeline cfg api d r).result = .ok res := by
  simp only [deployBody, bind_result_ok, liftExcept_result_ok, exists_and_left]

theorem deployBody_calls (cfg : ConcourseDeployer) (h : client d.concourseTargetCfg d.concourseTargetTeam = .ok api) :
    ∃ rest, (deployBody cfg client d).calls =
        (setPipelineWithRetry api d.pipelineName d.pipeline).calls ++ rest ∧
      (∀ c ∈ rest, c = .unpausePipeline d.pipelineName ∨ c = .exposePipeline d.pipelineName) ∧
      (.unpausePipeline d.pipelineName ∈ rest ↔ ∃ r,
        (setPipelineWithRetry api d.pipelineName d.pipeline).result = .ok r ∧
          unpauses cfg r = true) ∧
      (.exposePipeline d.pipelineName ∈ rest ↔ ∃ r,
        (setPipelineWithRetry api d.pipelineName d.pipeline).result = .ok r ∧
          cfg.exposePipelines = true ∧
          (unpauses cfg r = true → api.unpausePipeline d.pipelineName = .ok ())) := by
  rw [deployBody_of_client h]
  cases hr : (setPipelineWithRetry api d.pipelineName d.pipeline).result with
  | ok r =>
    refine ⟨_, by rw [bind_of_ok hr], afterSetPipeline_emits, ?_, ?_⟩
    · simp [mem_afterSetPipeline_unpause]
    · simp [mem_afterSetPipeline_expose]
  | error e => exact ⟨[], by rw [bind_of_error hr, List.append_nil], by simp, by simp, by simp⟩

theorem deploy_calls : (cfg.deploy client d).calls = (deployBody cfg client d).calls :=
  tryExceptAs_calls _ _ _

theorem deploy_result_ok_iff {status : DeployStatus} :
    (cfg.deploy client d).result = .ok ⟨d, status, none⟩ ↔
      (deployBody cfg client d).result = .ok ⟨d, status, none⟩ := by
  refine ⟨fun h => ?_, fun h => tryExceptAs_of_ok h _ _⟩
  cases hb : (deployBody cfg client d).result with
  | ok res => rwa [ConcourseDeployer.deploy, tryExceptAs_of_ok hb] at h
  | error x =>
    obtain ⟨e, rfl⟩ := deployBody_raises.raised hb
    rw [ConcourseDeployer.deploy, tryExceptAs_of_raised hb] at h
    split at h <;> simp at h

theorem deploy_result_of_raised {e : PyExc}
    (hb : (deployBody cfg client d).result = .error (.raised e)) :
    (cfg.deploy client d).result = if e.isException then .ok ⟨d, .failed, some (.traceback e)⟩
      else .error (.raised e) :=
  tryExceptAs_of_raised hb _ _

theorem deploy_result_ok_cases {res : DeployResult} (h : (cfg.deploy client d).result = .ok res) :
    res = ⟨d, .succeeded, none⟩ ∨ res = ⟨d, DeployStatus.succeeded.or .created, none⟩ ∨
      ∃ e, e.isException = true ∧ res = ⟨d, .failed, some (.traceback e)⟩ := by
  cases hb : (deployBody cfg client d).result with
  | ok res' =>
    rw [ConcourseDeployer.deploy, tryExceptAs_of_ok hb, Except.ok.injEq] at h
    obtain ⟨api, r, -, -, ha⟩ := deployBody_result_ok.mp (h ▸ hb)
    obtain ⟨-, -, ⟨-, rfl⟩ | ⟨-, rfl⟩⟩ := afterSetPipeline_result_ok.mp ha
    · exact .inr (.inl rfl)
    · exact .inl rfl
  | error x =>
    obtain ⟨e, rfl⟩ := deployBody_raises.raised hb
    rw [deploy_result_of_raised hb] at h
    split at h
    · exact .inr (.inr ⟨e, ‹_›, (Except.ok.inj h).symm⟩)
    · cases h

theorem deploy_result_error {x : Halt} (h : (cfg.deploy client d).result = .error x) :
    ∃ e, x = .raised e ∧ e.isException = false := by
  cases hb : (deployBody cfg client d).result with
  | ok res' => rw [ConcourseDeployer.deploy, tryExceptAs_of_ok hb] at h; cases h
  | error x' =>
    obtain ⟨e, rfl⟩ := deployBody_raises.raised hb
    rw [deploy_result_of_raised hb] at h
    split at h
    · cases h
    · rename_i hne
      exact ⟨e, (Except.error.inj h).symm, Bool.eq_false_iff.mpr hne⟩

theorem concourse_deploy_outcome (cfg : ConcourseDeployer)
    (client : String → String → Except PyExc ConcourseApi) (d : DefinitionDescriptor) :
    (∃ status, (cfg.deploy client d).result = .ok ⟨d, status, none⟩ ∧
      (status = .succeeded ∨ status = DeployStatus.succeeded.or .created)) ∨
    (∃ e, e.isException = true ∧
      (cfg.deploy client d).result = .ok ⟨d, .failed, some (.traceback e)⟩) ∨
    (∃ e, e.isException = false ∧ (cfg.deploy client d).result = .error (.raised e)) := by
  cases h : (cfg.deploy client d).result with
  | ok res =>
    rcases deploy_result_ok_cases h with rfl | rfl | ⟨e, he, rfl⟩
    · exact .inl ⟨_, rfl, .inl rfl⟩
    · exact .inl ⟨_, rfl, .inr rfl⟩
    · exact .inr (.inl ⟨e, he, rfl⟩)
  | error x =>
    obtain ⟨e, rfl, he⟩ := deploy_result_error h
    exact .inr (.inr ⟨e, he, rfl⟩)

theorem concourse_deploy_succeeds_iff (cfg : ConcourseDeployer)
    (client : String → String → Except PyExc ConcourseApi) (d : DefinitionDescriptor)
    (status : DeployStatus) :
    (cfg.deploy client d).result = .ok ⟨d, status, none⟩ ↔
      ∃ api r, client d.concourseTargetCfg d.concourseTargetTeam = .ok api ∧
        (if retries api d.pipelineName d.pipeline then
          api.setPipeline 1 d.pipelineName d.pipeline = .ok r
        else api.setPipeline 0 d.pipelineName d.pipeline = .ok r) ∧
        (unpauses cfg r = true → api.unpausePipeline d.pipelineName = .ok ()) ∧
        (cfg.exposePipelines = true → api.exposePipeline d.pipelineName = .ok ()) ∧
        (r = .created ∧ status = DeployStatus.succeeded.or .created ∨
          r = .updated ∧ status = .succeeded) := by
  rw [deploy_result_ok_iff, deployBody_result_ok]
  simp only [afterSetPipeline_result_ok, setPipelineWithRetry_result_ok, DeployResult.mk.injEq,
    true_and, and_true]

theorem concourse_deploy_calls (cfg : ConcourseDeployer)
    (client : String → String → Except PyExc ConcourseApi) (d : DefinitionDescriptor) :
    Emits (fun c => c = .setPipeline d.pipelineName d.pipeline ∨ c = .sleep ∨
      c = .unpausePipeline d.pipelineName ∨ c = .exposePipeline d.pipelineName)
      (cfg.deploy client d) ∧
    (∀ e, client d.concourseTargetCfg d.concourseTargetTeam = .error e →
      (cfg.deploy client d).calls = []) ∧
    ∀ api, client d.concourseTargetCfg d.concourseTargetTeam = .ok api →
      (cfg.deploy client d).calls.count (.setPipeline d.pipelineName d.pipeline) =
        (if retries api d.pipelineName d.pipeline then 2 else 1) ∧
      (.sleep ∈ (cfg.deploy client d).calls ↔ retries api d.pipelineName d.pipeline = true) ∧
      (.unpausePipeline d.pipelineName ∈ (cfg.deploy client d).calls ↔ ∃ r,
        (if retries api d.pipelineName d.pipeline then
          api.setPipeline 1 d.pipelineName d.pipeline = .ok r
        else api.setPipeline 0 d.pipelineName d.pipeline = .ok r) ∧ unpauses cfg r = true) ∧
      (.exposePipeline d.pipelineName ∈ (cfg.deploy client d).calls ↔ ∃ r,
        (if retries api d.pipelineName d.pipeline then
          api.setPipeline 1 d.pipelineName d.pipeline = .ok r
        else api.setPipeline 0 d.pipelineName d.pipeline = .ok r) ∧
          cfg.exposePipelines = true ∧
          (unpauses cfg r = true → api.unpausePipeline d.pipelineName = .ok ())) := by
  have hretry : ∀ api, ∀ c ∈ (setPipelineWithRetry api d.pipelineName d.pipeline).calls,
      c = .setPipeline d.pipelineName d.pipeline ∨ c = .sleep := fun api c hc => by
    rw [setPipelineWithRetry_calls] at hc
    split at hc <;> simp at hc <;> tauto
  refine ⟨fun c hc => ?_, fun e he => by rw [deploy_calls, deployBody_of_client_error he],
    fun api ha => ?_⟩
  · rw [deploy_calls] at hc
    cases hcl : client d.concourseTargetCfg d.concourseTargetTeam with
    | error e => simp [deployBody_of_client_error hcl] at hc
    | ok api =>
      obtain ⟨rest, hcalls, hrest, -, -⟩ := deployBody_calls cfg hcl
      rcases List.mem_append.mp (hcalls ▸ hc) with hc | hc
      · rcases hretry api c hc with h | h <;> simp [h]
      · rcases hrest c hc with h | h <;> simp [h]
  · obtain ⟨rest, hcalls, hrest, hunp, hexp⟩ := deployBody_calls cfg ha
    have hset : .setPipeline d.pipelineName d.pipeline ∉ rest := fun h => by
      rcases hrest _ h with h | h <;> cases h
    have hsleep : .sleep ∉ rest := fun h => by
      rcases hrest _ h with h | h <;> cases h
    have hunp' : .unpausePipeline d.pipelineName ∉
        (setPipelineWithRetry api d.pipelineName d.pipeline).calls := fun h => by
      rcases hretry api _ h with h | h <;> cases h
    have hexp' : .exposePipeline d.pipelineName ∉
        (setPipelineWithRetry api d.pipelineName d.pipeline).calls := fun h => by
      rcases hretry api _ h with h | h <;> cases h
    rw [deploy_calls, hcalls]
    refine ⟨?_, ?_, ?_, ?_⟩
    · rw [List.count_append, List.count_eq_zero.mpr hset, setPipelineWithRetry_calls]
      split <;> simp
    · rw [List.mem_append, setPipelineWithRetry_calls]
      split <;> simp_all
    · simp only [List.mem_append, hunp', false_or, hunp, setPipelineWithRetry_result_ok]
    · simp only [List.mem_append, hexp', false_or, hexp, setPipelineWithRetry_result_ok]

def conflictingApi : ConcourseApi where
  setPipeline attempt _ _ := if attempt = 0
    then .error ⟨⟨.httpError, "500 Server Error"⟩, some ⟨500, errContent⟩⟩ else .ok .created
  unpausePipeline _ := .ok ()
  exposePipeline _ := .ok ()

example : (ConcourseDeployer.deploy ⟨false, true, true⟩ (fun _ _ => .ok conflictingApi)
    ⟨"app", "cfg", "team", some "p", none⟩).calls =
      [.setPipeline "app" (some "p"), .sleep, .setPipeline "app" (some "p"),
        .unpausePipeline "app", .exposePipeline "app"] := by decide

end Deploy

end CcUtils.Concourse.Deployer
