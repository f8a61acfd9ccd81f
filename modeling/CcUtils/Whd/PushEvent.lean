import CcUtils.Whd.Dispatcher

namespace CcUtils.Whd.PushEvent

open CcUtils.Python CcUtils.Python.Exceptions CcUtils.Python.Effects
  CcUtils.Python.Effects.Trace CcUtils.Whd.Dispatcher

def jobMappingNotFoundError : ExcClass := .other "JobMappingNotFoundError"

def configElementNotFoundError : ExcClass := .other "ConfigElementNotFoundError"

def isConfigMissing (e : PyExc) : Bool :=
  e.isInstance jobMappingNotFoundError || e.isInstance configElementNotFoundError

structure Config (φ ς : Type) where
  cfgFactory : φ
  cfgSet : ς

/-- What handling one event reads of the world: the update and reload of the configuration, what
`concourse_clients` reads of a factory, what `determine_affected_pipelines` enumerates, and
the Concourse answers. -/
structure World (φ ς ρ : Type) where
  update : φ → ς → Except PyExc Unit
  retrieveSecrets : Except PyExc φ
  cfgSetOf : φ → ς → Except PyExc ς
  cfgFactory : φ → CfgFactory
  whdCfg : WebhookDispatcherConfig
  affected : φ → ς → Except PyExc (List DefinitionDescriptor)
  gitResources : ConcourseClient → Except PyExc (List GitResource)
  triggerResourceCheck : ConcourseClient → List GitResource → Except PyExc Unit
  concourse : Backends ρ

structure PushEventPaths extends PushEventDetails where
  modifiedPaths : List String

inductive RefType
  | branch | tag
  deriving DecidableEq, Repr

inductive Call
  | update
  | retrieveSecrets
  | abort (c : Dispatcher.Call)
  | triggerResourceCheck (client : ConcourseClient) (resources : List GitResource)
  deriving DecidableEq, Repr

section Handler

variable {φ ς ρ : Type} (w : World φ ς ρ)

def doUpdate (st : Config φ ς) : Trace Call Unit := call .update (w.update st.cfgFactory st.cfgSet)

def reloadConfig (st : Config φ ς) : Trace Call Unit × Config φ ς :=
  match w.retrieveSecrets with
  | .error e => (call .retrieveSecrets (.error e), st)
  | .ok f =>
    match w.cfgSetOf f st.cfgSet with
    | .error e => (emit .retrieveSecrets >>= fun _ => raise e, { st with cfgFactory := f })
    | .ok s => (emit .retrieveSecrets, ⟨f, s⟩)

/-- `_update_pipeline_definition`: on a missing configuration element, reload and try once
more. The configuration the reload assigned stays, whatever the second attempt does. -/
def updatePipelineDefinition (st : Config φ ς) : Trace Call Unit × Config φ ς :=
  match w.update st.cfgFactory st.cfgSet with
  | .error e =>
    if isConfigMissing e then
      (emit .update >>= fun _ => (reloadConfig w st).1 >>= fun _ => doUpdate w (reloadConfig w st).2,
        (reloadConfig w st).2)
    else (doUpdate w st, st)
  | .ok () => (doUpdate w st, st)

def pipelineDefinitionChanged (ev : PushEventPaths) : Bool :=
  ev.modifiedPaths.contains ".ci/pipeline_definitions"

def updateStep (ev : PushEventPaths) (st : Config φ ς) : Trace Call Unit × Config φ ς :=
  if pipelineDefinitionChanged ev then
    ((updatePipelineDefinition w st).1.tryExcept .valueError (), (updatePipelineDefinition w st).2)
  else (pure (), st)

def abortStep (ev : PushEventPaths) (st : Config φ ς) : Trace Call Unit :=
  (abortRunningJobsIfConfigured w.concourse ev.toPushEvent (w.cfgFactory st.cfgFactory) w.whdCfg
    (w.affected st.cfgFactory st.cfgSet)).mapCalls .abort

def triggerResourceChecks (ev : PushEventPaths) (st : Config φ ς) : Trace Call Unit :=
  forYields (concourseClients (w.cfgFactory st.cfgFactory) w.whdCfg) fun client => do
    let resources ← liftExcept (w.gitResources client)
    let matching := matchingResources ev.toPushEventDetails resources
    call (.triggerResourceCheck client matching) (w.triggerResourceCheck client matching)

/-- `process_push_event`, the body of the thread `dispatch_push_event` starts. The abort and
the checks read the configuration the update left. -/
def processPushEvent (ev : PushEventPaths) (st : Config φ ς) : Trace Call Unit × Config φ ς :=
  ((updateStep w ev st).1 >>= fun _ =>
    abortStep w ev (updateStep w ev st).2 >>= fun _ =>
    triggerResourceChecks w ev (updateStep w ev st).2,
  (updateStep w ev st).2)

def dispatchCreateEvent (refType : RefType) (st : Config φ ς) : Trace Call Unit × Config φ ς :=
  if refType = .branch then updatePipelineDefinition w st else (pure (), st)

end Handler

section Lemmas

variable {φ ς ρ : Type} {w : World φ ς ρ} {ev : PushEventPaths} {st : Config φ ς}

theorem doUpdate_calls (w : World φ ς ρ) (st : Config φ ς) : (doUpdate w st).calls = [.update] :=
  call_calls _ _

theorem reloadConfig_calls (w : World φ ς ρ) (st : Config φ ς) :
    (reloadConfig w st).1.calls = [.retrieveSecrets] := by
  unfold reloadConfig
  split
  · exact call_calls _ _
  · split <;> rfl

theorem updatePipelineDefinition_calls (w : World φ ς ρ) (st : Config φ ς) :
    ∀ c ∈ (updatePipelineDefinition w st).1.calls, c = .update ∨ c = .retrieveSecrets := by
  unfold updatePipelineDefinition
  split
  · split
    · intro c hc
      simp only [emit_bind, List.mem_cons] at hc
      rcases hc with rfl | hc
      · exact .inl rfl
      rcases mem_bind_calls hc with hc | ⟨_, -, hc⟩
      · simp [reloadConfig_calls] at hc
        exact .inr hc
      · simp [doUpdate_calls] at hc
        exact .inl hc
    · simp [doUpdate_calls]
  · simp [doUpdate_calls]

theorem updatePipelineDefinition_raises (w : World φ ς ρ) (st : Config φ ς) :
    Raises (updatePipelineDefinition w st).1 := by
  have hdo : ∀ st', Raises (doUpdate w st') := fun _ => Raises.call _ _
  have hreload : Raises (reloadConfig w st).1 := by
    unfold reloadConfig
    split
    · exact Raises.call _ _
    · split
      · exact Raises.bind (Raises.emit _) fun _ _ => Raises.raise _
      · exact Raises.emit _
  unfold updatePipelineDefinition
  split
  · split
    · exact Raises.bind (Raises.emit _) fun _ _ => Raises.bind hreload fun _ _ => hdo _
    · exact hdo st
  · exact hdo st

theorem updateStep_calls (w : World φ ς ρ) (ev : PushEventPaths) (st : Config φ ς) :
    ∀ c ∈ (updateStep w ev st).1.calls, c = .update ∨ c = .retrieveSecrets := by
  unfold updateStep
  split
  · simpa using updatePipelineDefinition_calls w st
  · simp

theorem updateStep_result_error {x : Halt} :
    (updateStep w ev st).1.result = .error x ↔ pipelineDefinitionChanged ev = true ∧
      (updatePipelineDefinition w st).1.result = .error x ∧
      ∀ e, x = .raised e → e.isInstance .valueError = false := by
  unfold updateStep
  split
  · simp only [tryExcept_result_error, true_and, *]
  · simp_all

def abortOrChecksError (w : World φ ς ρ) (st : Config φ ς) : PyExc :=
  match w.affected st.cfgFactory st.cfgSet with
  | .error e => e
  | .ok _ => concourseConfigNamesError

theorem abortStep_bind_checks (w : World φ ς ρ) (ev : PushEventPaths) (st : Config φ ς) :
    (abortStep w ev st >>= fun _ => triggerResourceChecks w ev st) =
      raise (abortOrChecksError w st) := by
  unfold abortStep abortOrChecksError
  rw [abortRunningJobsIfConfigured_eq]
  rcases w.affected st.cfgFactory st.cfgSet with _ | _ | _ <;> rfl

end Lemmas

example : (processPushEvent (ρ := Unit)
      ⟨fun _ _ => .error ⟨.valueError, "invalid"⟩, .error ⟨.keyError, "secrets"⟩, fun _ s => .ok s,
        fun _ => ⟨fun n => .ok ⟨n, "jm"⟩, fun _ => .ok ["team"], fun c t => .ok ⟨c, t⟩⟩, ⟨[]⟩,
        fun _ _ => .ok [], fun _ => .ok [], fun _ _ => .ok (),
        ⟨fun _ _ => .ok [], fun _ => .ok .other, fun _ => [], fun _ _ _ _ => []⟩⟩
      ⟨⟨⟨"prev", false⟩, "github.com", "org/repo", "refs/heads/master", none⟩,
        [".ci/pipeline_definitions"]⟩ (⟨(), ()⟩ : Config Unit Unit)).1 =
    ⟨[.update], .error (.raised concourseConfigNamesError)⟩ :=
  rfl

end CcUtils.Whd.PushEvent
