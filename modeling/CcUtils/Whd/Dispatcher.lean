import CcUtils.Python.Effects
import CcUtils.Python.Str

namespace CcUtils.Whd.Dispatcher

open CcUtils.Python CcUtils.Python.Exceptions CcUtils.Python.Effects CcUtils.Python.Effects.Trace

structure ConcourseClient where
  cfgName : String
  team : String
  deriving DecidableEq, Repr

structure ConcourseJobMapping where
  name : String
  cfgName : String
  jobMapping : String
  deriving DecidableEq, Repr

/-- `WebhookDispatcherConfig` of `model/webhook_dispatcher.py`, whose one attribute is
`concourse_cfgs`. The class defines no `concourse_config_names`. -/
structure WebhookDispatcherConfig where
  concourseCfgs : List ConcourseJobMapping

def concourseConfigNamesError : PyExc :=
  noAttribute "WebhookDispatcherConfig" "concourse_config_names"

def WebhookDispatcherConfig.concourseConfigNames (_ : WebhookDispatcherConfig) :
    Except PyExc (List String) :=
  .error concourseConfigNamesError

structure ConcourseCfg where
  name : String
  jobMappingCfgName : String

structure CfgFactory where
  concourse : String → Except PyExc ConcourseCfg
  jobMappingTeams : String → Except PyExc (List String)
  clientFromCfgName : String → String → Except PyExc ConcourseClient

def concourseClients (factory : CfgFactory) (whd : WebhookDispatcherConfig) :
    Trace ConcourseClient Unit := do
  let names ← liftExcept whd.concourseConfigNames
  names.forM fun name => do
    let concourseCfg ← liftExcept (factory.concourse name)
    let teams ← liftExcept (factory.jobMappingTeams concourseCfg.jobMappingCfgName)
    teams.forM fun team => liftExcept (factory.clientFromCfgName concourseCfg.name team) >>= emit

theorem concourseClients_eq (factory : CfgFactory) (whd : WebhookDispatcherConfig) :
    concourseClients factory whd = raise concourseConfigNamesError :=
  rfl

inductive AbortObsoleteJobs
  | always | onForcePushOnly | never
  deriving DecidableEq, Repr

def AbortObsoleteJobs.str : AbortObsoleteJobs → String
  | .always => "AbortObsoleteJobs.ALWAYS"
  | .onForcePushOnly => "AbortObsoleteJobs.ON_FORCE_PUSH_ONLY"
  | .never => "AbortObsoleteJobs.NEVER"

abbrev JobDefinition := Option (Option AbortObsoleteJobs)

structure DefinitionDescriptor where
  effectivePipelineName : String
  concourseTargetCfg : String
  concourseTargetTeam : String
  jobs : Option (String → JobDefinition)

structure Pipeline where
  pipelineName : String
  targetTeam : String
  jobs : Option (String → JobDefinition)

/-- `determine_affected_pipelines`, from what its lookups and the repository enumerator give:
the descriptors (none when a lookup error it catches ends it), or the exception that escapes. -/
def determineAffectedPipelines (enumerated : Except PyExc (List DefinitionDescriptor)) :
    Except PyExc (List Pipeline) :=
  enumerated.map fun ds => ds.map fun d => ⟨d.effectivePipelineName, d.concourseTargetTeam, d.jobs⟩

structure PushEvent where
  previousRef : String
  isForcedPush : Bool

structure Build where
  id : Nat
  running : Bool
  planRefs : List String
  deriving DecidableEq, Repr

inductive ResourceType
  | git | pullRequest | other
  deriving DecidableEq, Repr

structure HttpError where
  statusCode : Nat
  msg : String

/-- The Concourse instances, as the abort reads them; `job_builds` answers after the aborts
made so far, given as (client, build id) pairs. -/
structure Backends (ρ : Type) where
  pipelineCfg : ConcourseClient → String → Except HttpError (List ρ)
  resourceType : ρ → Except PyExc ResourceType
  determineJobsToBeTriggered : List ρ → List String
  jobBuilds : ConcourseClient → String → String → List (ConcourseClient × Nat) → List Build

inductive Call
  | pipelineCfg (client : ConcourseClient) (pipelineName : String)
  | jobBuilds (client : ConcourseClient) (pipelineName jobName : String)
  | abortBuild (client : ConcourseClient) (buildId : Nat)
  deriving DecidableEq, Repr

def buildsToConsider : Nat := 5

section Abort

variable {ρ : Type} (be : Backends ρ) (ev : PushEvent)

def triggeringResources (resources : List ρ) : Except PyExc (List ρ) :=
  resources.filterM fun r => do
    let t ← be.resourceType r
    pure (t == .git || t == .pullRequest)

def runningBuilds (client : ConcourseClient) (pipelineName job : String)
    (aborted : List (ConcourseClient × Nat)) : List Build :=
  ((be.jobBuilds client pipelineName job aborted).filter (·.running)).take buildsToConsider

def abortIfObsolete (client : ConcourseClient) (aborted : List (ConcourseClient × Nat))
    (b : Build) : Trace Call (List (ConcourseClient × Nat)) :=
  if ev.previousRef ∈ b.planRefs then
    emit (.abortBuild client b.id) >>= fun _ => pure (aborted ++ [(client, b.id)])
  else pure aborted

def abortJob (client : ConcourseClient) (p : Pipeline) (aborted : List (ConcourseClient × Nat))
    (job : String) : Trace Call (List (ConcourseClient × Nat)) :=
  match p.jobs with
  | none => raise ⟨.keyError, "\x27jobs\x27"⟩
  | some jobs =>
    match jobs job with
    | none | some none => pure aborted
    | some (some policy) =>
      if policy = .never then pure aborted
      else if policy = .onForcePushOnly ∧ ev.isForcedPush = false then pure aborted
      else if policy = .always then
        emit (.jobBuilds client p.pipelineName job) >>= fun _ =>
          (runningBuilds be client p.pipelineName job aborted).foldlM
            (abortIfObsolete ev client) aborted
      else raise ⟨.notImplementedError, policy.str⟩

def matchingClient (factory : CfgFactory) (whd : WebhookDispatcherConfig) (team : String) :
    Trace Call (Option ConcourseClient) :=
  firstYield (concourseClients factory whd) fun c => c.team == team

def abortPipeline (factory : CfgFactory) (whd : WebhookDispatcherConfig)
    (aborted : List (ConcourseClient × Nat)) (p : Pipeline) :
    Trace Call (List (ConcourseClient × Nat)) :=
  matchingClient factory whd p.targetTeam >>= fun
  | none => pure aborted
  | some client =>
    emit (.pipelineCfg client p.pipelineName) >>= fun _ =>
      match be.pipelineCfg client p.pipelineName with
      | .error e => if e.statusCode ≠ 404 then raise ⟨.httpError, e.msg⟩ else pure aborted
      | .ok resources => do
        let rs ← liftExcept (triggeringResources be resources)
        (be.determineJobsToBeTriggered rs).foldlM (abortJob be ev client p) aborted

def abortRunningJobsIfConfigured (factory : CfgFactory) (whd : WebhookDispatcherConfig)
    (enumerated : Except PyExc (List DefinitionDescriptor)) : Trace Call Unit :=
  liftExcept (determineAffectedPipelines enumerated) >>= fun pipelines =>
    (pipelines.foldlM (abortPipeline be ev factory whd) []).mapResult fun _ => ()

theorem matchingClient_eq (factory : CfgFactory) (whd : WebhookDispatcherConfig) (team : String) :
    matchingClient factory whd team = raise concourseConfigNamesError := by
  rw [matchingClient, concourseClients_eq, firstYield_raise]

theorem abortPipeline_eq (factory : CfgFactory) (whd : WebhookDispatcherConfig)
    (aborted : List (ConcourseClient × Nat)) (p : Pipeline) :
    abortPipeline be ev factory whd aborted p = raise concourseConfigNamesError :=
  rfl

theorem abortRunningJobsIfConfigured_eq (factory : CfgFactory) (whd : WebhookDispatcherConfig)
    (enumerated : Except PyExc (List DefinitionDescriptor)) :
    abortRunningJobsIfConfigured be ev factory whd enumerated =
      match enumerated with
      | .error e => raise e
      | .ok [] => pure ()
      | .ok (_ :: _) => raise concourseConfigNamesError := by
  rcases enumerated with e | _ | ⟨d, ds⟩
  · rfl
  · rfl
  · simp only [abortRunningJobsIfConfigured, determineAffectedPipelines, Except.map,
      liftExcept_ok, pure_bind, List.map_cons, List.foldlM_cons, abortPipeline_eq, raise_bind]
    rfl

theorem abort_running_jobs_aborts_no_build (factory : CfgFactory) (whd : WebhookDispatcherConfig)
    (enumerated : Except PyExc (List DefinitionDescriptor)) :
    (∀ client id, Call.abortBuild client id ∉
      (abortRunningJobsIfConfigured be ev factory whd enumerated).calls) ∧
    abortRunningJobsIfConfigured be ev factory whd enumerated =
      match enumerated with
      | .error e => raise e
      | .ok [] => pure ()
      | .ok (_ :: _) => raise concourseConfigNamesError := by
  refine ⟨fun client id => ?_, abortRunningJobsIfConfigured_eq be ev factory whd enumerated⟩
  rw [abortRunningJobsIfConfigured_eq]
  rcases enumerated with _ | _ | _ <;> simp

theorem matching_client_finds_no_client (factory : CfgFactory) (whd : WebhookDispatcherConfig) :
    (concourseClients factory whd).calls = [] ∧
    (∀ team, matchingClient factory whd team = raise concourseConfigNamesError) ∧
    ∀ enumerated, (abortRunningJobsIfConfigured be ev factory whd enumerated).calls = [] := by
  refine ⟨congrArg Trace.calls (concourseClients_eq factory whd), matchingClient_eq factory whd,
    fun enumerated => ?_⟩
  rw [abortRunningJobsIfConfigured_eq]
  rcases enumerated with _ | _ | _ <;> rfl

end Abort

structure PushEventDetails extends PushEvent where
  githubHost : String
  repositoryPath : String
  ref : String
  commitMessage : Option String

structure GitResource where
  name : String
  hostname : String
  repoPath : String
  branchName : String
  disableCiSkip : Bool
  deriving DecidableEq, Repr

def ciSkipMarkers : List String := ["[skip ci]", "[ci skip]"]

def resourceMatches (ev : PushEventDetails) (r : GitResource) : Bool :=
  r.hostname == ev.githubHost && Str.lstrip r.repoPath '/' == ev.repositoryPath &&
    Str.endswith ev.ref r.branchName &&
    match ev.commitMessage with
    | some msg => msg == "" || r.disableCiSkip || !ciSkipMarkers.any (Str.contains msg)
    | none => true

def matchingResources (ev : PushEventDetails) (resources : List GitResource) :
    List GitResource :=
  resources.filter (resourceMatches ev)

theorem push_resource_matches_ref_suffix (ev : PushEventDetails) (resources : List GitResource)
    (r : GitResource) :
    r ∈ matchingResources ev resources ↔ r ∈ resources ∧ r.hostname = ev.githubHost ∧
      Str.lstrip r.repoPath '/' = ev.repositoryPath ∧ r.branchName.toList <:+ ev.ref.toList ∧
      (r.disableCiSkip = true ∨ ∀ msg, ev.commitMessage = some msg →
        ∀ m ∈ ciSkipMarkers, ¬ m.toList <:+: msg.toList) := by
  simp only [matchingResources, resourceMatches, List.mem_filter, Bool.and_eq_true, beq_iff_eq,
    Str.endswith_iff, and_assoc]
  refine and_congr_right fun _ => and_congr_right fun _ => and_congr_right fun _ =>
    and_congr_right fun _ => ?_
  rcases ev.commitMessage with _ | msg
  · simp
  by_cases hmsg : msg = ""
  · subst hmsg
    simpa [List.infix_nil] using .inr (by decide)
  · simp [hmsg, Str.contains_iff]

def masterResource : GitResource := ⟨"repo", "github.com", "/org/repo", "master", false⟩

def featurePush : PushEventDetails :=
  ⟨⟨"prev", false⟩, "github.com", "org/repo", "refs/heads/feature-master", some "feature"⟩

theorem feature_branch_push_matches_master :
    masterResource ∈ matchingResources featurePush [masterResource] ∧
      masterResource.branchName.toList <:+ featurePush.ref.toList ∧
      featurePush.ref ≠ "refs/heads/" ++ masterResource.branchName :=
  have h : masterResource ∈ matchingResources featurePush [masterResource] := by decide
  ⟨h, ((push_resource_matches_ref_suffix featurePush [masterResource] masterResource).mp h).2.2.2.1,
    by decide⟩

end CcUtils.Whd.Dispatcher
