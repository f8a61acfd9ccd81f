import CcUtils.Python.Effects
import CcUtils.Python.Str
import CcUtils.Model.Concourse
import Mathlib.Data.List.Dedup

namespace CcUtils.Whd.PullRequest

open CcUtils.Python CcUtils.Python.Exceptions CcUtils.Python.Effects CcUtils.Python.Effects.Trace
  CcUtils.Model.Concourse

inductive PullRequestAction
  | opened
  | synchronize
  | labeled
  | reopened
  | other (action : String)
  deriving DecidableEq, Repr

structure PullRequestEvent where
  action : PullRequestAction
  number : Nat
  sender : String
  githubHost : String
  repositoryPath : String
  repositoryUrl : String
  hostname : String
  label : String
  labelNames : List String
  deriving DecidableEq, Repr

structure PrResource where
  name : String
  pipelineName : String
  label : Option String
  hostname : String
  repoPath : String
  deriving DecidableEq, Repr

/-- A concourse client as the handler queries it: its pull-request resources, and what it
answers about resource checks. Those answers may change from one invocation of
`ensure_pr_resource_updates` to the next, so they are indexed by the invocation's depth. -/
structure ConcourseApi where
  prResources : List PrResource
  failingToCheck : Nat → PrResource → Bool
  resourceVersions : Nat → PrResource → List String

structure GitHubRepositoryHelper where
  changedFiles : List String

/-- The methods `GitHubRepositoryHelper` has in `github/util.py`, its own and those of
`RepositoryHelperBase`. -/
def GitHubRepositoryHelper.methods : List String :=
  ["__init__", "_create_repository", "create_or_update_file", "retrieve_file_contents",
    "retrieve_text_file_contents", "create_tag", "create_release", "draft_release_with_name",
    "tag_exists", "retrieve_asset_contents", "release_versions", "release_tags",
    "search_issues_in_repo"]

/-- What the handler reads besides the Concourse clients: the repository helper (`none` on
`NotFoundError`), the job-mapping elements of the config set, the validation, and GitHub's
membership answers. -/
structure Backends where
  githubHelper : Option GitHubRepositoryHelper
  jobMappingSets : List (Except PyExc JobMapping)
  jobMappingLookup : Except PyExc Unit
  validateRepositoryPipelines : Except PyExc Unit
  isTeamMember : String → String → Bool
  isOrgMember : String → String → Bool

inductive Call
  | addLabelsToPullRequest (number : Nat) (labels : List String)
  | addCommentToPr (number : Nat) (comment : String)
  | removeLabelFromPullRequest (number : Nat) (label : String)
  | triggerResourceCheck (client : Nat) (resources : List PrResource)
  | handleUntriggeredJobs (client : Nat)
  deriving DecidableEq, Repr

def Call.isConcourse : Call → Bool
  | .triggerResourceCheck _ _ | .handleUntriggeredJobs _ => true
  | _ => false

/-- `github_helper.<name>(...)`, a request to GitHub once Python has found `name` on the
helper's class. -/
def helperRequest (name : String) (c : Call) : Trace Call Unit :=
  if name ∈ GitHubRepositoryHelper.methods then emit c
  else raise (noAttribute "GitHubRepositoryHelper" name)

def helperQuery (name : String) (answer : Bool) : Except PyExc Bool :=
  if name ∈ GitHubRepositoryHelper.methods then .ok answer
  else .error (noAttribute "GitHubRepositoryHelper" name)

def pipelineValidationError : ExcClass := .other "PipelineValidationError"

def matchingResources (ev : PullRequestEvent) (resources : List PrResource) : List PrResource :=
  resources.filter fun r => r.hostname == ev.githubHost && Str.lstrip r.repoPath '/' == ev.repositoryPath

def repositoryOwner (path : String) : Except PyExc String :=
  match Str.split path '/' with
  | [owner, _] => .ok owner
  | parts => .error (Str.unpackError parts.length)

def githubApiForPrEvent (b : Backends) (ev : PullRequestEvent) :
    Except PyExc (Option GitHubRepositoryHelper) :=
  repositoryOwner ev.repositoryPath >>= fun _ => pure b.githubHelper

def prModifiedPipelineDefinitions (b : Backends) (ev : PullRequestEvent) : Except PyExc Bool :=
  githubApiForPrEvent b ev >>= fun
    | none => pure false
    | some helper => pure (".ci/pipeline_definitions" ∈ helper.changedFiles)

def taggingLabel : String := "ci/broken-pipeline-definition"

def brokenDefinitionComment (e : PyExc) : String :=
  "This PR proposes changes that would break the pipeline definition:\n```\n" ++ e.msg ++
    "\n```\n"

def fixedComment : String := "The pipeline-definition has been fixed."

def validatePipelineDefinitions (b : Backends) (ev : PullRequestEvent) (taggingLabel : String) :
    Trace Call Unit := do
  liftExcept b.jobMappingLookup
  match b.validateRepositoryPipelines with
  | .ok () =>
    if taggingLabel ∈ ev.labelNames then do
      helperRequest "remove_label_from_pull_request"
        (.removeLabelFromPullRequest ev.number taggingLabel)
      helperRequest "add_comment_to_pr" (.addCommentToPr ev.number fixedComment)
  | .error e =>
    if e.isInstance pipelineValidationError then do
      helperRequest "add_comment_to_pr" (.addCommentToPr ev.number (brokenDefinitionComment e))
      if taggingLabel ∉ ev.labelNames then
        helperRequest "add_labels_to_pull_request"
          (.addLabelsToPullRequest ev.number [taggingLabel])
    else raise e

def iterTrustedTeamsForHostname (hostname : String) : List String → Except PyExc (List String)
  | [] => .ok []
  | team :: teams =>
    match Str.split team '/' with
    | [_, _] => (team :: ·) <$> iterTrustedTeamsForHostname hostname teams
    | [host, org, t] =>
      if host = hostname then ((org ++ "/" ++ t) :: ·) <$> iterTrustedTeamsForHostname hostname teams
      else iterTrustedTeamsForHostname hostname teams
    | _ => .error ⟨.valueError, "team must either be <hostname>/<org>/<team> or <org>/<team>"⟩

def shouldLabel (b : Backends) (jobMapping : JobMapping) (senderLogin owner githubHostname : String) :
    Except PyExc Bool := do
  let trustedTeams ← iterTrustedTeamsForHostname githubHostname jobMapping.trustedTeams
  if trustedTeams ≠ [] then
    trustedTeams.anyM fun team => helperQuery "is_team_member" (b.isTeamMember team senderLogin)
  else helperQuery "is_org_member" (b.isOrgMember owner senderLogin)

def selectJobMapping (repoUrl : String) : List (Except PyExc JobMapping) → Except PyExc JobMapping
  | [] => .error ⟨.valueError, "no job-mapping found for " ++ repoUrl⟩
  | .ok jobMapping :: _ => .ok jobMapping
  | .error e :: sets => if e.isInstance .valueError then selectJobMapping repoUrl sets else .error e

def lgtmLabels : List String := ["lgtm", "reviewed/lgtm"]

def requiredLabels (resources : List PrResource) : List String :=
  (resources.filterMap PrResource.label).dedup

def contributionComment (senderLogin : String) (requiredLabels : List String) : String :=
  "Thank you @" ++ senderLogin ++ " for your contribution. Before I can start building your " ++
    "PR, a member of the organization must set the required label(s) " ++
    Str.setRepr requiredLabels ++ ". Once started, you can check the build status in the PR " ++
    "checks section below."

def setPrLabels (b : Backends) (ev : PullRequestEvent) (resources : List PrResource) :
    Trace Call Bool :=
  let required := requiredLabels resources
  if required = [] then pure true else do
  let owner ← liftExcept (repositoryOwner ev.repositoryPath)
  let jobMapping ← liftExcept (selectJobMapping ev.repositoryUrl b.jobMappingSets)
  match ev.action with
  | .opened =>
    if (← liftExcept (shouldLabel b jobMapping ev.sender owner ev.hostname)) then do
      helperRequest "add_labels_to_pull_request" (.addLabelsToPullRequest ev.number required)
      pure true
    else do
      helperRequest "add_comment_to_pr"
        (.addCommentToPr ev.number (contributionComment ev.sender required))
      pure false
  | .synchronize =>
    if (← liftExcept (shouldLabel b jobMapping ev.sender owner ev.hostname)) then do
      helperRequest "add_labels_to_pull_request" (.addLabelsToPullRequest ev.number required)
      pure true
    else pure false
  | .labeled =>
    if ev.label ∈ lgtmLabels then do
      helperRequest "add_labels_to_pull_request" (.addLabelsToPullRequest ev.number required)
      pure true
    else pure false
  | _ => pure false

def isUpToDate (ev : PullRequestEvent) (resource : PrResource) (versions : List String) : Bool :=
  match resource.label with
  | some l => if l ≠ "" ∧ l ∉ ev.labelNames then true else toString ev.number ∈ versions
  | none => toString ev.number ∈ versions

def outdatedResources (api : ConcourseApi) (depth : Nat) (ev : PullRequestEvent)
    (resources : List PrResource) : List PrResource :=
  resources.filter fun r =>
    api.failingToCheck depth r || !isUpToDate ev r (api.resourceVersions depth r)

/-- `ensure_pr_resource_updates` at recursion depth `depth`, the recursion bounded by `fuel`.
The source decrements `retries` and only logs when it falls below zero. -/
def ensurePrResourceUpdates (api : ConcourseApi) (client : Nat) (ev : PullRequestEvent) :
    (fuel depth : Nat) → List PrResource → Int → Trace Call Unit
  | 0, _, _, _ => outOfFuel
  | fuel + 1, depth, resources, retries =>
    let retries := retries - 1
    let outdated := outdatedResources api depth ev resources
    if outdated = [] then pure () else do
      emit (.triggerResourceCheck client outdated)
      ensurePrResourceUpdates api client ev fuel (depth + 1) outdated retries

def labeledPrecheck (b : Backends) (ev : PullRequestEvent) (resources : List PrResource) :
    Trace Call Bool :=
  if ev.action = .labeled then
    let required := requiredLabels resources
    if ev.label ∈ lgtmLabels then
      if ev.label ∈ required then pure false
      else setPrLabels b ev resources >>= fun _ => pure true
    else pure (decide (required = [] ∨ ev.label ∈ required))
  else pure true

def labelGate (b : Backends) (ev : PullRequestEvent) (resources : List PrResource) :
    Trace Call Bool :=
  if ev.action = .opened ∨ ev.action = .synchronize then setPrLabels b ev resources
  else pure true

def processClient (b : Backends) (ev : PullRequestEvent) (fuel client : Nat) (api : ConcourseApi) :
    Trace Call Unit :=
  let resources := matchingResources ev api.prResources
  if resources = [] then pure () else
  labeledPrecheck b ev resources >>= fun proceed =>
  if !proceed then pure () else
  labelGate b ev resources >>= fun labelled =>
  if !labelled then pure () else do
  emit (.triggerResourceCheck client resources)
  ensurePrResourceUpdates api client ev fuel 0 resources 10
  emit (.handleUntriggeredJobs client)

def processClients (b : Backends) (ev : PullRequestEvent) (fuel : Nat) :
    Nat → List ConcourseApi → Trace Call Unit
  | _, [] => pure ()
  | client, api :: apis =>
    processClient b ev fuel client api >>= fun _ => processClients b ev fuel (client + 1) apis

def processPrEvent (b : Backends) (clients : List ConcourseApi) (ev : PullRequestEvent)
    (fuel : Nat) : Trace Call Unit :=
  liftExcept (githubApiForPrEvent b ev) >>= fun
  | none => pure ()
  | some _ => do
    let modified ← liftExcept (prModifiedPipelineDefinitions b ev)
    let _ ← (if modified ∧ (ev.action = .opened ∨ ev.action = .synchronize) then
      validatePipelineDefinitions b ev taggingLabel else pure ())
    processClients b ev fuel 0 clients

section Ensure

variable (api : ConcourseApi) (client : Nat) (ev : PullRequestEvent)

theorem outdatedResources_sublist (depth : Nat) (resources : List PrResource) :
    (outdatedResources api depth ev resources).Sublist resources :=
  List.filter_sublist _

theorem ensurePrResourceUpdates_emits (fuel depth : Nat) (resources : List PrResource)
    (retries : Int) :
    Emits (fun c => ∃ rs, c = .triggerResourceCheck client rs ∧ rs.Sublist resources)
      (ensurePrResourceUpdates api client ev fuel depth resources retries) := by
  induction fuel generalizing depth resources retries with
  | zero => exact Emits.outOfFuel
  | succ fuel ih =>
    simp only [ensurePrResourceUpdates]
    split
    · exact Emits.pure ()
    · refine Emits.bind (Emits.emit ⟨_, rfl, outdatedResources_sublist api ev depth resources⟩)
        fun _ _ => Emits.mono (ih _ _ _) ?_
      rintro c ⟨rs, rfl, hrs⟩
      exact ⟨rs, rfl, hrs.trans (outdatedResources_sublist api ev depth resources)⟩

theorem ensure_pr_resource_updates_never_returns (resources : List PrResource)
    (hne : resources ≠ []) (hfail : ∀ depth r, api.failingToCheck depth r = true)
    (fuel depth : Nat) (retries : Int) :
    ensurePrResourceUpdates api client ev fuel depth resources retries =
      ⟨List.replicate fuel (.triggerResourceCheck client resources), .error .outOfFuel⟩ := by
  induction fuel generalizing depth retries with
  | zero => rfl
  | succ fuel ih =>
    have hout : outdatedResources api depth ev resources = resources :=
      List.filter_eq_self.mpr fun r _ => by simp [hfail]
    simp only [ensurePrResourceUpdates, hout, hne, if_false, emit_bind, ih, List.replicate_succ]

end Ensure

def failingApi (resources : List PrResource) : ConcourseApi :=
  ⟨resources, fun _ _ => true, fun _ _ => []⟩

def prResource : PrResource := ⟨"pr", "pipeline", none, "github.com", "org/repo"⟩

def openedEvent : PullRequestEvent :=
  ⟨.opened, 1, "contributor", "github.com", "org/repo", "https://github.com/org/repo",
    "github.com", "", []⟩

theorem failing_resource_retriggered_past_retries :
    ensurePrResourceUpdates (failingApi [prResource]) 0 openedEvent 2 0 [prResource] 0 =
      ⟨[.triggerResourceCheck 0 [prResource], .triggerResourceCheck 0 [prResource]],
        .error .outOfFuel⟩ :=
  ensure_pr_resource_updates_never_returns (failingApi [prResource]) 0 openedEvent [prResource]
    (List.cons_ne_nil _ _) (fun _ _ => rfl) 2 0 0

def admittedTeams (hostname : String) (teams : List String) : List String :=
  teams.filterMap fun team =>
    match Str.split team '/' with
    | [_, _] => some team
    | [host, org, t] => if host = hostname then some (org ++ "/" ++ t) else none
    | _ => none

def TrustedTeamsWellFormed (teams : List String) : Prop :=
  ∀ team ∈ teams, (Str.split team '/').length = 2 ∨ (Str.split team '/').length = 3

theorem repositoryOwner_eq_ok {path owner : String} :
    repositoryOwner path = .ok owner ↔
      (Str.split path '/').length = 2 ∧ (Str.split path '/').headD "" = owner := by
  unfold repositoryOwner
  rcases Str.split path '/' with _ | ⟨a, _ | ⟨b, _ | ⟨c, rest⟩⟩⟩ <;> simp

theorem iterTrustedTeamsForHostname_eq_ok {hostname : String} {teams ts : List String} :
    iterTrustedTeamsForHostname hostname teams = .ok ts ↔
      TrustedTeamsWellFormed teams ∧ admittedTeams hostname teams = ts := by
  induction teams generalizing ts with
  | nil => simp [iterTrustedTeamsForHostname, TrustedTeamsWellFormed, admittedTeams]
  | cons team teams ih =>
    simp only [TrustedTeamsWellFormed, admittedTeams] at ih ⊢
    rcases h : Str.split team '/' with _ | ⟨a, _ | ⟨b, _ | ⟨c, _ | ⟨d, rest⟩⟩⟩⟩ <;>
      simp only [iterTrustedTeamsForHostname, h] <;> (try split_ifs) <;>
      simp [h, except_map_eq_ok, ih, and_assoc, *]

def missingMethods : List String :=
  ["add_comment_to_pr", "add_labels_to_pull_request", "remove_label_from_pull_request",
    "is_team_member", "is_org_member"]

theorem not_mem_methods {name : String} (h : name ∈ missingMethods) :
    name ∉ GitHubRepositoryHelper.methods := by
  simp only [missingMethods, List.mem_cons, List.mem_singleton, List.not_mem_nil, or_false] at h
  rcases h with rfl | rfl | rfl | rfl | rfl <;> decide

theorem helperRequest_missing {name : String} (h : name ∈ missingMethods) (c : Call) :
    helperRequest name c = raise (noAttribute "GitHubRepositoryHelper" name) :=
  if_neg (not_mem_methods h)

theorem helperQuery_missing {name : String} (h : name ∈ missingMethods) (answer : Bool) :
    helperQuery name answer = .error (noAttribute "GitHubRepositoryHelper" name) :=
  if_neg (not_mem_methods h)

theorem shouldLabel_eq (b : Backends) (jobMapping : JobMapping)
    (senderLogin owner githubHostname : String) :
    shouldLabel b jobMapping senderLogin owner githubHostname =
      match iterTrustedTeamsForHostname githubHostname jobMapping.trustedTeams with
      | .error e => .error e
      | .ok [] => .error (noAttribute "GitHubRepositoryHelper" "is_org_member")
      | .ok (_ :: _) => .error (noAttribute "GitHubRepositoryHelper" "is_team_member") := by
  unfold shouldLabel
  rcases iterTrustedTeamsForHostname githubHostname jobMapping.trustedTeams with e | _ | ⟨t, ts⟩
  · rfl
  · exact helperQuery_missing (show "is_org_member" ∈ missingMethods by decide)
      (b.isOrgMember owner senderLogin)
  · simp only [except_ok_bind, ne_eq, reduceCtorEq, not_false_eq_true, if_true, List.anyM,
      helperQuery_missing (show "is_team_member" ∈ missingMethods by decide)]
    rfl

section Gate

variable (b : Backends) (ev : PullRequestEvent)

theorem validatePipelineDefinitions_calls (label : String) :
    (validatePipelineDefinitions b ev label).calls = [] := by
  unfold validatePipelineDefinitions
  rcases b.jobMappingLookup with _ | ⟨⟩
  · rfl
  simp only [liftExcept_ok, Trace.pure_bind]
  split
  · split
    · simp only [helperRequest_missing (show "remove_label_from_pull_request" ∈ missingMethods
        by decide), raise_bind, raise_calls]
    · rfl
  · split
    · simp only [helperRequest_missing (show "add_comment_to_pr" ∈ missingMethods by decide),
        raise_bind, raise_calls]
    · rfl

theorem setPrLabels_spec (resources : List PrResource) :
    (setPrLabels b ev resources).calls = [] ∧
    ((setPrLabels b ev resources).result = .ok true ↔ requiredLabels resources = []) := by
  unfold setPrLabels
  dsimp only
  by_cases hreq : requiredLabels resources = []
  · simp [hreq]
  rw [if_neg hreq]
  rcases repositoryOwner ev.repositoryPath with e | owner
  · simp [hreq]
  rcases selectJobMapping ev.repositoryUrl b.jobMappingSets with e | jobMapping
  · simp [hreq]
  obtain ⟨e, he⟩ : ∃ e, shouldLabel b jobMapping ev.sender owner ev.hostname = .error e := by
    rw [shouldLabel_eq]
    split <;> exact ⟨_, rfl⟩
  simp only [liftExcept_ok, Trace.pure_bind]
  cases hact : ev.action with
  | opened | synchronize => simp [hact, he, hreq]
  | labeled =>
    simp only [hact]
    split
    · simp [hreq, helperRequest_missing (show "add_labels_to_pull_request" ∈ missingMethods by
        decide)]
    · simp [hreq]
  | reopened | other _ => simp [hact, hreq]

theorem setPrLabels_of_required (resources : List PrResource)
    (hact : ev.action = .opened ∨ ev.action = .synchronize)
    (hreq : requiredLabels resources ≠ []) :
    (∃ e, setPrLabels b ev resources = raise e) ∧
    ∀ jobMapping, (Str.split ev.repositoryPath '/').length = 2 →
      selectJobMapping ev.repositoryUrl b.jobMappingSets = .ok jobMapping →
      TrustedTeamsWellFormed jobMapping.trustedTeams →
      setPrLabels b ev resources = raise (noAttribute "GitHubRepositoryHelper"
        (if admittedTeams ev.hostname jobMapping.trustedTeams = [] then "is_org_member"
          else "is_team_member")) := by
  have hsl : ∀ jobMapping owner, ∃ e, shouldLabel b jobMapping ev.sender owner ev.hostname = .error e
      ∧ (TrustedTeamsWellFormed jobMapping.trustedTeams →
        e = noAttribute "GitHubRepositoryHelper"
          (if admittedTeams ev.hostname jobMapping.trustedTeams = [] then "is_org_member"
            else "is_team_member")) := by
    intro jobMapping owner
    rw [shouldLabel_eq]
    rcases h : iterTrustedTeamsForHostname ev.hostname jobMapping.trustedTeams with e | _ | ⟨t, ts⟩
    · exact ⟨e, rfl, fun hwf => absurd (iterTrustedTeamsForHostname_eq_ok.mpr ⟨hwf, rfl⟩)
        (by rw [h]; exact fun h' => by cases h')⟩
    all_goals
      obtain ⟨-, hadm⟩ := iterTrustedTeamsForHostname_eq_ok.mp h
      exact ⟨_, rfl, fun _ => by simp [hadm]⟩
  have hopen : ∀ owner jobMapping, repositoryOwner ev.repositoryPath = .ok owner →
      selectJobMapping ev.repositoryUrl b.jobMappingSets = .ok jobMapping →
      ∀ e, shouldLabel b jobMapping ev.sender owner ev.hostname = .error e →
        setPrLabels b ev resources = raise e := by
    intro owner jobMapping howner hjm e he
    simp only [setPrLabels, if_neg hreq, howner, hjm, liftExcept_ok, Trace.pure_bind]
    rcases hact with h | h <;> simp only [h, he, liftExcept_error, raise_bind]
  refine ⟨?_, fun jobMapping hpath hjm hwf => ?_⟩
  · rcases howner : repositoryOwner ev.repositoryPath with e | owner
    · exact ⟨e, by simp only [setPrLabels, if_neg hreq, howner, liftExcept_error, raise_bind]⟩
    rcases hjm : selectJobMapping ev.repositoryUrl b.jobMappingSets with e | jobMapping
    · exact ⟨e, by simp only [setPrLabels, if_neg hreq, howner, hjm, liftExcept_ok,
        liftExcept_error, Trace.pure_bind, raise_bind]⟩
    obtain ⟨e, he, -⟩ := hsl jobMapping owner
    exact ⟨e, hopen owner jobMapping howner hjm e he⟩
  · obtain ⟨e, he, hwfe⟩ := hsl jobMapping ((Str.split ev.repositoryPath '/').headD "")
    rw [hopen _ jobMapping (repositoryOwner_eq_ok.mpr ⟨hpath, rfl⟩) hjm e he, hwfe hwf]

theorem labeledPrecheck_calls (resources : List PrResource) :
    (labeledPrecheck b ev resources).calls = [] := by
  unfold labeledPrecheck
  split
  · dsimp only
    split
    · split
      · rfl
      · rcases h : (setPrLabels b ev resources).result with e | a
        · simp [bind_of_error h, (setPrLabels_spec b ev resources).1]
        · simp [bind_of_ok h, (setPrLabels_spec b ev resources).1]
    · rfl
  · rfl

theorem labelGate_calls (resources : List PrResource) :
    (labelGate b ev resources).calls = [] := by
  unfold labelGate
  split
  · exact (setPrLabels_spec b ev resources).1
  · rfl

theorem processClient_emits (fuel client : Nat) (api : ConcourseApi) :
    Emits (fun c => c.isConcourse = true) (processClient b ev fuel client api) := by
  unfold processClient
  dsimp only
  split
  · exact Emits.pure _
  refine Emits.bind (fun c hc => by simp [labeledPrecheck_calls] at hc) fun _ _ => ?_
  split
  · exact Emits.pure _
  refine Emits.bind (fun c hc => by simp [labelGate_calls] at hc) fun _ _ => ?_
  split
  · exact Emits.pure _
  refine Emits.emit_bind rfl (Emits.bind (Emits.mono
    (ensurePrResourceUpdates_emits api client ev fuel 0 _ 10) ?_) fun _ _ => Emits.emit rfl)
  rintro c ⟨rs, rfl, -⟩
  rfl

theorem processClients_emits (fuel : Nat) :
    ∀ (client : Nat) (apis : List ConcourseApi),
      Emits (fun c => c.isConcourse = true) (processClients b ev fuel client apis)
  | _, [] => Emits.pure _
  | client, api :: apis => Emits.bind (processClient_emits b ev fuel client api) fun _ _ =>
      processClients_emits fuel (client + 1) apis

theorem processPrEvent_emits (clients : List ConcourseApi) (fuel : Nat) :
    Emits (fun c => c.isConcourse = true) (processPrEvent b clients ev fuel) := by
  refine Emits.bind (Emits.liftExcept _) fun h _ => ?_
  rcases h with _ | _
  · exact Emits.pure _
  refine Emits.bind (Emits.liftExcept _) fun _ _ => Emits.bind ?_ fun _ _ =>
    processClients_emits b ev fuel 0 clients
  split
  · exact fun c hc => by simp [validatePipelineDefinitions_calls] at hc
  · exact Emits.pure _

end Gate

def labelledResource : PrResource := ⟨"pr", "pipeline", some "ok-to-test", "github.com", "org/repo"⟩

def untrustedBackends : Backends :=
  ⟨some ⟨[]⟩, [.ok ⟨[], .other⟩], .ok (), .ok (), fun _ _ => false, fun _ _ => false⟩

def labelledApi : ConcourseApi := ⟨[labelledResource], fun _ _ => false, fun _ _ => ["1"]⟩

def applyCall (labels : List String) : Call → List String
  | .addLabelsToPullRequest _ ls => labels ++ ls.filter (· ∉ labels)
  | .removeLabelFromPullRequest _ l => labels.filter (· ≠ l)
  | _ => labels

structure Validation where
  labelsBefore : List String
  outcome : Except PyExc Unit
  run : Trace Call Unit

def Validation.labelsAfter (v : Validation) : List String :=
  v.run.calls.foldl applyCall v.labelsBefore

def validateOnce (b : Backends) (ev : PullRequestEvent) (labels : List String)
    (outcome : Except PyExc Unit) : Validation :=
  ⟨labels, outcome, validatePipelineDefinitions { b with validateRepositoryPipelines := outcome }
    { ev with labelNames := labels } taggingLabel⟩

def validationRun (b : Backends) (ev : PullRequestEvent) :
    List String → List (Except PyExc Unit) → List Validation
  | _, [] => []
  | labels, outcome :: outcomes =>
    validateOnce b ev labels outcome ::
      validationRun b ev (validateOnce b ev labels outcome).labelsAfter outcomes

section Run

variable (b : Backends) (ev : PullRequestEvent) (labels : List String)

def validationResult (labels : List String) : Except PyExc Unit → Except Halt Unit
  | .error _ => .error (.raised (noAttribute "GitHubRepositoryHelper" "add_comment_to_pr"))
  | .ok () =>
    if taggingLabel ∈ labels then
      .error (.raised (noAttribute "GitHubRepositoryHelper" "remove_label_from_pull_request"))
    else .ok ()

theorem validateOnce_spec (hlookup : b.jobMappingLookup = .ok ()) (outcome : Except PyExc Unit)
    (houtcome : ∀ e, outcome = .error e → e.isInstance pipelineValidationError = true) :
    (validateOnce b ev labels outcome).run = ⟨[], validationResult labels outcome⟩ := by
  simp only [validateOnce, validatePipelineDefinitions, hlookup, liftExcept_ok, Trace.pure_bind]
  rcases outcome with e | ⟨⟩
  · simp only [houtcome e rfl, if_true, helperRequest_missing (show "add_comment_to_pr" ∈
      missingMethods by decide), raise_bind]
    rfl
  · dsimp only
    split_ifs with h
    · simp only [helperRequest_missing (show "remove_label_from_pull_request" ∈ missingMethods
        by decide), raise_bind, validationResult, if_pos h]
      rfl
    · simp only [validationResult, if_neg h]
      rfl

theorem validation_run_never_labels (hlookup : b.jobMappingLookup = .ok ())
    (outcomes : List (Except PyExc Unit))
    (houtcomes : ∀ o ∈ outcomes, ∀ e, o = .error e → e.isInstance pipelineValidationError = true) :
    (validationRun b ev labels outcomes).map (·.outcome) = outcomes ∧
    ∀ v ∈ validationRun b ev labels outcomes, v.labelsBefore = labels ∧
      v.labelsAfter = labels ∧ v.run = ⟨[], validationResult labels v.outcome⟩ := by
  induction outcomes with
  | nil => simp [validationRun]
  | cons o os ih =>
    have hrun := validateOnce_spec b ev labels hlookup o (houtcomes o (List.mem_cons_self _ _))
    have hafter : (validateOnce b ev labels o).labelsAfter = labels := by
      rw [Validation.labelsAfter, hrun]
      rfl
    obtain ⟨hmap, hall⟩ := ih fun o' ho' => houtcomes o' (List.mem_cons_of_mem _ ho')
    have hcons : validationRun b ev labels (o :: os) =
        validateOnce b ev labels o :: validationRun b ev labels os := by
      rw [validationRun, hafter]
    rw [hcons]
    exact ⟨by rw [List.map_cons, hmap]; rfl, List.forall_mem_cons.mpr ⟨⟨rfl, hafter, hrun⟩, hall⟩⟩

end Run

def brokenOutcome : Except PyExc Unit :=
  .error ⟨pipelineValidationError, "invalid pipeline definition"⟩

def brokenDefinitionBackends : Backends :=
  ⟨some ⟨[".ci/pipeline_definitions"]⟩, [.ok ⟨[], .other⟩], .ok (), brokenOutcome,
    fun _ _ => false, fun _ _ => false⟩

theorem failed_validation_leaves_no_label :
    brokenOutcome ≠ .ok () ∧
    (validateOnce brokenDefinitionBackends openedEvent [] brokenOutcome).labelsAfter = [] ∧
    (validateOnce brokenDefinitionBackends openedEvent [] brokenOutcome).run =
      ⟨[], .error (.raised (noAttribute "GitHubRepositoryHelper" "add_comment_to_pr"))⟩ := by
  obtain ⟨-, hafter, hrun⟩ := (validation_run_never_labels brokenDefinitionBackends openedEvent
    [] rfl [brokenOutcome] fun o ho e he => by
      obtain rfl : o = brokenOutcome := List.mem_singleton.mp ho
      cases he
      rfl).2 _ (List.mem_singleton_self _)
  exact ⟨(fun h => by cases h), hafter, hrun⟩

end CcUtils.Whd.PullRequest
