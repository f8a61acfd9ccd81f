import CcUtils.Python.Str

namespace CcUtils.Github.RepositoryHelper

open CcUtils.Python CcUtils.Python.Exceptions CcUtils.Python.Str

structure Commit where
  branch : String
  path : String
  message : String
  deriving DecidableEq, Repr

structure Repository (β : Type) where
  files : String → String → Option β
  commits : List Commit

namespace Repository

variable {β : Type}

def write (r : Repository β) (c : Commit) (contents : β) : Repository β where
  files branch path := if branch = c.branch ∧ path = c.path then some contents else r.files branch path
  commits := r.commits ++ [c]

@[simp] theorem write_files (r : Repository β) (c : Commit) (contents : β) (branch path : String) :
    (r.write c contents).files branch path =
      if branch = c.branch ∧ path = c.path then some contents else r.files branch path := rfl

@[simp] theorem write_commits (r : Repository β) (c : Commit) (contents : β) :
    (r.write c contents).commits = r.commits ++ [c] := rfl

end Repository

inductive Call
  | fileContents | createFile | update
  deriving DecidableEq, Repr

abbrev Failures := Call → String → String → Option PyExc

def notFoundError : ExcClass := .other "NotFoundError"

section Helper

variable {β : Type} (codec : Codec β) (fails : Failures) (defaultBranch : String)

def retrieveFileContents (r : Repository β) (filePath : String) (branch : Option String) :
    Except PyExc β :=
  let branch := branch.getD defaultBranch
  match fails .fileContents branch filePath, r.files branch filePath with
  | some e, _ => .error e
  | none, some contents => .ok contents
  | none, none => .error ⟨notFoundError, "404 Not Found"⟩

def existingContents (r : Repository β) (filePath branch : String) : Except PyExc (Option β) :=
  match retrieveFileContents fails defaultBranch r filePath (some branch) with
  | .ok contents => .ok (some contents)
  | .error e => if e.isInstance notFoundError then .ok none else .error e

def commitFile (call : Call) (r : Repository β) (c : Commit) (contents : β) :
    Except PyExc (Option Commit × Repository β) :=
  match fails call c.branch c.path with
  | some e => .error e
  | none => .ok (some c, r.write c contents)

/-- `GitHubRepositoryHelper.create_or_update_file`, with the repository it leaves; `none` is
the `None` of `util.info` when the file holds the contents already. -/
def createOrUpdateFile (r : Repository β) (filePath fileContents commitMessage : String)
    (branch : Option String) : Except PyExc (Option Commit × Repository β) :=
  let branch := branch.getD defaultBranch
  existingContents fails defaultBranch r filePath branch >>= fun
    | some contents =>
      match codec.decode contents with
      | .error reason => .error ⟨.unicodeDecodeError, reason⟩
      | .ok decodedContents =>
        if decodedContents = fileContents then .ok (none, r)
        else commitFile fails .update r ⟨branch, filePath, commitMessage⟩ (codec.encode fileContents)
    | none => commitFile fails .createFile r ⟨branch, filePath, commitMessage⟩ (codec.encode fileContents)

end Helper

section CreateOrUpdate

variable {β : Type} {codec : Codec β} {fails : Failures} {defaultBranch : String}
  {r r' : Repository β}

theorem existingContents_eq {filePath branch : String} :
    existingContents fails defaultBranch r filePath branch =
      match fails .fileContents branch filePath with
      | some e => if e.isInstance notFoundError then .ok none else .error e
      | none => .ok (r.files branch filePath) := by
  unfold existingContents retrieveFileContents
  dsimp only [Option.getD_some]
  cases fails .fileContents branch filePath <;> cases r.files branch filePath <;> rfl

theorem existingContents_of_answered {filePath branch : String}
    (hf : fails .fileContents branch filePath = none) :
    existingContents fails defaultBranch r filePath branch = .ok (r.files branch filePath) := by
  rw [existingContents_eq, hf]

theorem existingContents_some {filePath branch : String} {contents : β}
    (h : existingContents fails defaultBranch r filePath branch = .ok (some contents)) :
    r.files branch filePath = some contents := by
  rw [existingContents_eq] at h
  cases hf : fails .fileContents branch filePath with
  | none => rw [hf] at h; exact Except.ok.inj h
  | some e => rw [hf] at h; dsimp only at h; split at h <;> cases h

theorem existingContents_error {filePath branch : String} {e : PyExc}
    (h : existingContents fails defaultBranch r filePath branch = .error e) :
    fails .fileContents branch filePath = some e := by
  rw [existingContents_eq] at h
  cases hf : fails .fileContents branch filePath with
  | none => rw [hf] at h; cases h
  | some e' =>
    rw [hf] at h
    dsimp only at h
    split at h <;> cases h
    rfl

theorem commitFile_ok {call : Call} {c : Commit} {contents : β} {res : Option Commit}
    (h : commitFile fails call r c contents = .ok (res, r')) :
    res = some c ∧ r' = r.write c contents := by
  unfold commitFile at h
  split at h
  · cases h
  · cases h
    exact ⟨rfl, rfl⟩

theorem commitFile_error {call : Call} {c : Commit} {contents : β} {e : PyExc}
    (h : commitFile fails call r c contents = .error e) : fails call c.branch c.path = some e := by
  unfold commitFile at h
  split at h
  · cases h
    assumption
  · cases h

theorem commitFile_of_answered {call : Call} {c : Commit} (contents : β)
    (hf : fails call c.branch c.path = none) :
    commitFile fails call r c contents = .ok (some c, r.write c contents) := by
  simp only [commitFile, hf]

variable {filePath fileContents commitMessage : String} {branch : Option String}

theorem createOrUpdateFile_of_lookup_error {e : PyExc}
    (hx : existingContents fails defaultBranch r filePath (branch.getD defaultBranch) = .error e) :
    createOrUpdateFile codec fails defaultBranch r filePath fileContents commitMessage branch =
      .error e := by
  unfold createOrUpdateFile
  dsimp only
  rw [hx]
  rfl

theorem createOrUpdateFile_of_absent
    (hx : existingContents fails defaultBranch r filePath (branch.getD defaultBranch) = .ok none) :
    createOrUpdateFile codec fails defaultBranch r filePath fileContents commitMessage branch =
      commitFile fails .createFile r ⟨branch.getD defaultBranch, filePath, commitMessage⟩
        (codec.encode fileContents) := by
  unfold createOrUpdateFile
  dsimp only
  rw [hx]
  rfl

theorem createOrUpdateFile_of_present {contents : β}
    (hx : existingContents fails defaultBranch r filePath (branch.getD defaultBranch) =
      .ok (some contents)) :
    createOrUpdateFile codec fails defaultBranch r filePath fileContents commitMessage branch =
      match codec.decode contents with
      | .error reason => .error ⟨.unicodeDecodeError, reason⟩
      | .ok decodedContents =>
        if decodedContents = fileContents then .ok (none, r)
        else commitFile fails .update r ⟨branch.getD defaultBranch, filePath, commitMessage⟩
          (codec.encode fileContents) := by
  unfold createOrUpdateFile
  dsimp only
  rw [hx]
  rfl

theorem createOrUpdateFile_ok {res : Option Commit}
    (h : createOrUpdateFile codec fails defaultBranch r filePath fileContents commitMessage branch =
      .ok (res, r')) :
    res = none ∧ r' = r ∧
        r.files (branch.getD defaultBranch) filePath = some (codec.encode fileContents) ∨
      res = some ⟨branch.getD defaultBranch, filePath, commitMessage⟩ ∧
        r' = r.write ⟨branch.getD defaultBranch, filePath, commitMessage⟩ (codec.encode fileContents) := by
  cases hx : existingContents fails defaultBranch r filePath (branch.getD defaultBranch) with
  | error e => rw [createOrUpdateFile_of_lookup_error hx] at h; cases h
  | ok x =>
    rcases x with _ | contents
    · rw [createOrUpdateFile_of_absent hx] at h
      exact .inr (commitFile_ok h)
    · rw [createOrUpdateFile_of_present hx] at h
      cases hd : codec.decode contents with
      | error reason => rw [hd] at h; cases h
      | ok decoded =>
        rw [hd] at h
        dsimp only at h
        split at h
        · cases h
          subst decoded
          exact .inl ⟨rfl, rfl, (existingContents_some hx).trans
            (congrArg some ((codec.decode_eq_ok_iff).mp hd))⟩
        · exact .inr (commitFile_ok h)

theorem createOrUpdateFile_error {e : PyExc}
    (h : createOrUpdateFile codec fails defaultBranch r filePath fileContents commitMessage branch =
      .error e) :
    (∃ call, fails call (branch.getD defaultBranch) filePath = some e) ∨
      ∃ contents reason, r.files (branch.getD defaultBranch) filePath = some contents ∧
        codec.decode contents = .error reason ∧ e = ⟨.unicodeDecodeError, reason⟩ := by
  cases hx : existingContents fails defaultBranch r filePath (branch.getD defaultBranch) with
  | error e' =>
    rw [createOrUpdateFile_of_lookup_error hx] at h
    cases h
    exact .inl ⟨_, existingContents_error hx⟩
  | ok x =>
    rcases x with _ | contents
    · rw [createOrUpdateFile_of_absent hx] at h
      exact .inl ⟨_, commitFile_error h⟩
    · rw [createOrUpdateFile_of_present hx] at h
      cases hd : codec.decode contents with
      | error reason =>
        rw [hd] at h
        cases h
        exact .inr ⟨contents, reason, existingContents_some hx, hd, rfl⟩
      | ok decoded =>
        rw [hd] at h
        dsimp only at h
        split at h
        · cases h
        · exact .inl ⟨_, commitFile_error h⟩

theorem createOrUpdateFile_of_answered
    (hf : ∀ call, fails call (branch.getD defaultBranch) filePath = none) :
    createOrUpdateFile codec fails defaultBranch r filePath fileContents commitMessage branch =
      match r.files (branch.getD defaultBranch) filePath with
      | some contents =>
        match codec.decode contents with
        | .error reason => .error ⟨.unicodeDecodeError, reason⟩
        | .ok decodedContents =>
          if decodedContents = fileContents then .ok (none, r)
          else .ok (some ⟨branch.getD defaultBranch, filePath, commitMessage⟩,
            r.write ⟨branch.getD defaultBranch, filePath, commitMessage⟩ (codec.encode fileContents))
      | none => .ok (some ⟨branch.getD defaultBranch, filePath, commitMessage⟩,
          r.write ⟨branch.getD defaultBranch, filePath, commitMessage⟩ (codec.encode fileContents)) := by
  have hx : existingContents fails defaultBranch r filePath (branch.getD defaultBranch) =
      .ok (r.files (branch.getD defaultBranch) filePath) := existingContents_of_answered (hf _)
  rcases hfile : r.files (branch.getD defaultBranch) filePath with _ | contents
  · rw [hfile] at hx
    exact (createOrUpdateFile_of_absent hx).trans (commitFile_of_answered _ (hf _))
  · rw [hfile] at hx
    rw [createOrUpdateFile_of_present hx]
    dsimp only
    rcases codec.decode contents with reason | decoded
    · rfl
    · dsimp only
      split
      · rfl
      · exact commitFile_of_answered _ (hf _)

theorem createOrUpdateFile_ok_file {res : Option Commit}
    (h : createOrUpdateFile codec fails defaultBranch r filePath fileContents commitMessage branch =
      .ok (res, r')) :
    r'.files (branch.getD defaultBranch) filePath = some (codec.encode fileContents) := by
  rcases createOrUpdateFile_ok h with ⟨-, rfl, hfile⟩ | ⟨-, rfl⟩
  · exact hfile
  · simp

theorem createOrUpdateFile_of_undecodable
    (hf : ∀ call, fails call (branch.getD defaultBranch) filePath = none) {contents : β}
    {reason : String} (hc : r.files (branch.getD defaultBranch) filePath = some contents)
    (hd : codec.decode contents = .error reason) :
    createOrUpdateFile codec fails defaultBranch r filePath fileContents commitMessage branch =
      .error ⟨.unicodeDecodeError, reason⟩ := by
  rw [createOrUpdateFile_of_answered hf, hc]
  dsimp only
  rw [hd]

theorem createOrUpdateFile_of_decodable
    (hf : ∀ call, fails call (branch.getD defaultBranch) filePath = none)
    (hok : ∀ contents, r.files (branch.getD defaultBranch) filePath = some contents →
      (codec.decode contents).isOk) :
    ∃ res r', createOrUpdateFile codec fails defaultBranch r filePath fileContents commitMessage
        branch = .ok (res, r') ∧
      (res = none ↔ r.files (branch.getD defaultBranch) filePath = some (codec.encode fileContents)) := by
  rw [createOrUpdateFile_of_answered hf]
  cases hc : r.files (branch.getD defaultBranch) filePath with
  | none => exact ⟨_, _, rfl, iff_of_false nofun nofun⟩
  | some contents =>
    dsimp only
    cases hd : codec.decode contents with
    | error reason => cases (hd ▸ hok contents hc : (Except.error reason : Except String String).isOk)
    | ok decoded =>
      dsimp only
      have hdec := (codec.decode_eq_ok_iff).mp hd
      split
      · exact ⟨_, _, rfl, iff_of_true rfl (by rw [hdec, ‹decoded = fileContents›])⟩
      · refine ⟨_, _, rfl, iff_of_false nofun fun h => ‹¬decoded = fileContents› ?_⟩
        rw [Option.some.inj h, codec.decode_encode] at hd
        exact (Except.ok.inj hd).symm

end CreateOrUpdate

theorem create_or_update_file_spec {β : Type} (codec : Codec β) (fails : Failures)
    (defaultBranch : String) (r : Repository β) (filePath fileContents commitMessage : String)
    (branch : Option String) :
    (∀ res r', createOrUpdateFile codec fails defaultBranch r filePath fileContents commitMessage
        branch = .ok (res, r') →
      r'.files (branch.getD defaultBranch) filePath = some (codec.encode fileContents) ∧
      (∀ b p, ¬(b = branch.getD defaultBranch ∧ p = filePath) → r'.files b p = r.files b p) ∧
      (res = none ∧ r'.commits = r.commits ∨
        res = some ⟨branch.getD defaultBranch, filePath, commitMessage⟩ ∧
          r'.commits = r.commits ++ [⟨branch.getD defaultBranch, filePath, commitMessage⟩])) ∧
    (∀ e, createOrUpdateFile codec fails defaultBranch r filePath fileContents commitMessage
        branch = .error e →
      (∃ call, fails call (branch.getD defaultBranch) filePath = some e) ∨
      ∃ contents reason, r.files (branch.getD defaultBranch) filePath = some contents ∧
        codec.decode contents = .error reason ∧ e = ⟨.unicodeDecodeError, reason⟩) ∧
    ((∀ call, fails call (branch.getD defaultBranch) filePath = none) →
      (∀ contents reason, r.files (branch.getD defaultBranch) filePath = some contents →
        codec.decode contents = .error reason →
        createOrUpdateFile codec fails defaultBranch r filePath fileContents commitMessage branch =
          .error ⟨.unicodeDecodeError, reason⟩) ∧
      ((∀ contents, r.files (branch.getD defaultBranch) filePath = some contents →
          (codec.decode contents).isOk) →
        ∃ res r', createOrUpdateFile codec fails defaultBranch r filePath fileContents
            commitMessage branch = .ok (res, r') ∧
          (res = none ↔ r.files (branch.getD defaultBranch) filePath = some (codec.encode fileContents)))) := by
  refine ⟨fun res r' h => ⟨createOrUpdateFile_ok_file h, ?_⟩, fun e h => createOrUpdateFile_error h,
    fun hf => ⟨fun _ _ hc hd => createOrUpdateFile_of_undecodable hf hc hd,
      createOrUpdateFile_of_decodable hf⟩⟩
  rcases createOrUpdateFile_ok h with ⟨rfl, rfl, -⟩ | ⟨rfl, rfl⟩
  · exact ⟨fun _ _ _ => rfl, .inl ⟨rfl, rfl⟩⟩
  · exact ⟨fun b p hbp => by simp [hbp], .inr ⟨rfl, rfl⟩⟩

/-- What `github.repository(owner, name)` answers for each repository: the repository, or the
exception it raises, a `NotFoundError` for one that does not exist. -/
structure Hub (β : Type) where
  repos : String → String → Except PyExc (Repository β)

section Replicate

variable {β : Type}

def Hub.set (hub : Hub β) (owner name : String) (r : Repository β) : Hub β :=
  ⟨fun o n => if o = owner ∧ n = name then .ok r else hub.repos o n⟩

@[simp] theorem Hub.set_repos (hub : Hub β) (owner name : String) (r : Repository β) (o n : String) :
    (hub.set owner name r).repos o n = if o = owner ∧ n = name then .ok r else hub.repos o n :=
  rfl

def createRepository (hub : Hub β) (owner name : String) : Except PyExc (Repository β) :=
  match hub.repos owner name with
  | .ok r => .ok r
  | .error e =>
    if e.isInstance notFoundError then
      .error ⟨.runtimeError, "failed to retrieve repository " ++ owner ++ "/" ++ name⟩
    else .error e

def pipelineDefinitionsPath : String := ".ci/pipeline_definitions"

def importMessage : String := "Import cc-pipeline definition"

structure RepoMappings where
  items : List (String × List String)
  keys_nodup : (items.map Prod.fst).Nodup

variable (codec : Codec β) (readDefinition : String → Except PyExc String)
  (fails : String → String → Failures)

/-- One pass of `replicate_pipeline_definitions`' loop: only the write to `master` sits in the
bare `try`, whose exceptions are passed over. -/
def replicateMapping (hub : Hub β) (repoPath : String) (definitionFile : List String) :
    Except PyExc (Hub β) :=
  match definitionFile with
  | [] => .error ⟨.indexError, "list index out of range"⟩
  | file :: _ =>
    readDefinition file >>= fun definitionContents =>
    match Str.split repoPath '/' with
    | [repoOwner, repoName] =>
      createRepository hub repoOwner repoName >>= fun repository =>
      match createOrUpdateFile codec (fails repoOwner repoName) "master" repository
          pipelineDefinitionsPath definitionContents importMessage (some "master") with
      | .ok (_, repository') => .ok (hub.set repoOwner repoName repository')
      | .error _ => .ok hub
    | parts => .error (Str.unpackError parts.length)

def replicateLoop : List (String × List String) → Hub β → Hub β × Option PyExc
  | [], hub => (hub, none)
  | (repoPath, definitionFile) :: mappings, hub =>
    match replicateMapping codec readDefinition fails hub repoPath definitionFile with
    | .ok hub' => replicateLoop mappings hub'
    | .error e => (hub, some e)

def replicatePipelineDefinitions (repoMappings : RepoMappings) (hub : Hub β) :
    Hub β × Option PyExc :=
  replicateLoop codec readDefinition fails repoMappings.items hub

def Replicable (hub : Hub β) (m : String × List String) : Prop :=
  ∃ file definition owner name, m.2.head? = some file ∧ readDefinition file = .ok definition ∧
    Str.split m.1 '/' = [owner, name] ∧ (hub.repos owner name).isOk

def Replicated (mappings : List (String × List String)) (hub₀ hub : Hub β) : Prop :=
  ∀ owner name, (∀ e, hub.repos owner name = .error e ↔ hub₀.repos owner name = .error e) ∧
    ∀ r₀ r, hub₀.repos owner name = .ok r₀ → hub.repos owner name = .ok r →
      ∀ branch path, r.files branch path = r₀.files branch path ∨
        branch = "master" ∧ path = pipelineDefinitionsPath ∧
          ∃ m ∈ mappings, ∃ file definition, m.2.head? = some file ∧
            readDefinition file = .ok definition ∧ Str.split m.1 '/' = [owner, name] ∧
            r.files branch path = some (codec.encode definition)

end Replicate

section ReplicateSteps

variable {β : Type} {codec : Codec β} {readDefinition : String → Except PyExc String}
  {fails : String → String → Failures} {hub hub' : Hub β}

theorem createRepository_eq_ok {owner name : String} {r : Repository β} :
    createRepository hub owner name = .ok r ↔ hub.repos owner name = .ok r := by
  cases h : hub.repos owner name with
  | ok r' => simp only [createRepository, h]
  | error e =>
    simp only [createRepository, h]
    split <;> exact ⟨nofun, nofun⟩

theorem isOk_congr {α : Type} {x y : Except PyExc α} (h : ∀ e, x = .error e ↔ y = .error e) :
    x.isOk = y.isOk := by
  cases x with
  | error e => obtain rfl := (h e).mp rfl; rfl
  | ok a =>
    cases y with
    | error e => cases (h e).mpr rfl
    | ok b => rfl

theorem replicateMapping_ok {repoPath : String} {definitionFile : List String}
    (h : replicateMapping codec readDefinition fails hub repoPath definitionFile = .ok hub') :
    ∃ file definition owner name r, definitionFile.head? = some file ∧
      readDefinition file = .ok definition ∧ Str.split repoPath '/' = [owner, name] ∧
      hub.repos owner name = .ok r ∧
      ((∃ e, createOrUpdateFile codec (fails owner name) "master" r pipelineDefinitionsPath
          definition importMessage (some "master") = .error e) ∧ hub' = hub ∨
        ∃ res r', createOrUpdateFile codec (fails owner name) "master" r pipelineDefinitionsPath
          definition importMessage (some "master") = .ok (res, r') ∧
          hub' = hub.set owner name r') := by
  unfold replicateMapping at h
  rcases definitionFile with _ | ⟨file, _⟩
  · cases h
  dsimp only at h
  cases hd : readDefinition file with
  | error e => rw [hd] at h; cases h
  | ok definition =>
    rw [hd] at h
    dsimp only [Except.bind, bind] at h
    split at h
    · rename_i owner name hs
      cases hr : createRepository hub owner name with
      | error e => rw [hr] at h; cases h
      | ok r =>
        rw [hr] at h
        refine ⟨file, definition, owner, name, r, rfl, hd, hs, createRepository_eq_ok.mp hr, ?_⟩
        dsimp only at h
        split at h
        · cases h
          exact .inr ⟨_, _, ‹_›, rfl⟩
        · cases h
          exact .inl ⟨⟨_, ‹_›⟩, rfl⟩
    · cases h

theorem replicateMapping_ok_iff {m : String × List String} :
    (∃ hub', replicateMapping codec readDefinition fails hub m.1 m.2 = .ok hub') ↔
      Replicable readDefinition hub m := by
  constructor
  · rintro ⟨hub', h⟩
    obtain ⟨file, definition, owner, name, r, hf, hd, hs, hr, -⟩ := replicateMapping_ok h
    exact ⟨file, definition, owner, name, hf, hd, hs, by rw [hr]; rfl⟩
  · rintro ⟨file, definition, owner, name, hf, hd, hs, hr⟩
    cases hrepo : hub.repos owner name with
    | error e => rw [hrepo] at hr; cases hr
    | ok r =>
      obtain ⟨repoPath, _ | ⟨file', _⟩⟩ := m
      · cases hf
      cases hf
      dsimp only at hs
      unfold replicateMapping
      simp only [hd, hs, createRepository, hrepo, bind, Except.bind]
      split <;> exact ⟨_, rfl⟩

theorem replicateMapping_repos {repoPath : String} {definitionFile : List String}
    (h : replicateMapping codec readDefinition fails hub repoPath definitionFile = .ok hub')
    (o n : String) :
    (∀ e, hub'.repos o n = .error e ↔ hub.repos o n = .error e) ∧
      (Str.split repoPath '/' ≠ [o, n] → hub'.repos o n = hub.repos o n) := by
  obtain ⟨file, definition, owner, name, r, -, -, hs, hr, hcase⟩ := replicateMapping_ok h
  rcases hcase with ⟨-, rfl⟩ | ⟨res, r', -, rfl⟩
  · exact ⟨fun _ => Iff.rfl, fun _ => rfl⟩
  · by_cases hon : o = owner ∧ n = name
    · obtain ⟨rfl, rfl⟩ := hon
      simp [hr, hs]
    · simp [hon]

theorem replicable_congr (readDefinition : String → Except PyExc String)
    (hrepos : ∀ o n, (hub'.repos o n).isOk = (hub.repos o n).isOk)
    (m : String × List String) :
    Replicable readDefinition hub' m ↔ Replicable readDefinition hub m := by
  simp only [Replicable, hrepos]

theorem replicateLoop_stops :
    ∀ (mappings : List (String × List String)) (hub : Hub β),
      ((replicateLoop codec readDefinition fails mappings hub).2 = none ↔
        ∀ m ∈ mappings, Replicable readDefinition hub m) ∧
      ∀ e, (replicateLoop codec readDefinition fails mappings hub).2 = some e →
        ∃ pre m post, mappings = pre ++ m :: post ∧
          (∀ m' ∈ pre, Replicable readDefinition hub m') ∧
          replicateMapping codec readDefinition fails
            (replicateLoop codec readDefinition fails mappings hub).1 m.1 m.2 = .error e
  | [], hub => ⟨iff_of_true rfl nofun, fun _ h => by cases h⟩
  | (repoPath, definitionFile) :: mappings, hub => by
    cases h : replicateMapping codec readDefinition fails hub repoPath definitionFile with
    | error e =>
      have hnot : ¬Replicable readDefinition hub (repoPath, definitionFile) := fun hrep => by
        obtain ⟨_, h'⟩ : ∃ hub', replicateMapping codec readDefinition fails hub repoPath
            definitionFile = .ok hub' := replicateMapping_ok_iff.mpr hrep
        rw [h] at h'
        cases h'
      simp only [replicateLoop, h]
      refine ⟨iff_of_false nofun fun hall => hnot (hall _ (List.mem_cons_self _ _)), ?_⟩
      rintro _ ⟨⟩
      exact ⟨[], _, mappings, rfl, nofun, h⟩
    | ok hub' =>
      have hrep : Replicable readDefinition hub (repoPath, definitionFile) :=
        replicateMapping_ok_iff.mp ⟨_, h⟩
      have hcongr := replicable_congr readDefinition fun o n =>
        isOk_congr ((replicateMapping_repos h o n).1)
      obtain ⟨hdone, hstop⟩ := replicateLoop_stops mappings hub'
      simp only [replicateLoop, h]
      refine ⟨?_, fun e he => ?_⟩
      · rw [hdone, List.forall_mem_cons]
        simp only [hcongr, hrep, true_and]
      · obtain ⟨pre, m, post, rfl, hpre, herr⟩ := hstop e he
        exact ⟨(repoPath, definitionFile) :: pre, m, post, rfl,
          List.forall_mem_cons.mpr ⟨hrep, fun m' hm' => (hcongr m').mp (hpre m' hm')⟩, herr⟩

theorem Replicated.step {mappings : List (String × List String)} {hub₀ : Hub β}
    (hinv : Replicated codec readDefinition mappings hub₀ hub) {m : String × List String}
    (hm : m ∈ mappings) (h : replicateMapping codec readDefinition fails hub m.1 m.2 = .ok hub') :
    Replicated codec readDefinition mappings hub₀ hub' := by
  obtain ⟨file, definition, owner, name, r, hf, hd, hs, hr, hcase⟩ := replicateMapping_ok h
  intro o n
  refine ⟨fun e => ((replicateMapping_repos h o n).1 e).trans ((hinv o n).1 e),
    fun r₀ r'' h₀ h'' => ?_⟩
  rcases hcase with ⟨-, rfl⟩ | ⟨res, r', hw, rfl⟩
  · exact (hinv o n).2 r₀ r'' h₀ h''
  · by_cases hon : o = owner ∧ n = name
    · obtain ⟨rfl, rfl⟩ := hon
      simp only [Hub.set_repos, and_self, if_true, Except.ok.injEq] at h''
      rw [← h'']
      intro b p
      rcases createOrUpdateFile_ok hw with ⟨-, hr', -⟩ | ⟨-, hr'⟩ <;> rw [hr']
      · exact (hinv o n).2 r₀ r h₀ hr b p
      · by_cases hbp : b = "master" ∧ p = pipelineDefinitionsPath
        · obtain ⟨rfl, rfl⟩ := hbp
          exact .inr ⟨rfl, rfl, m, hm, file, definition, hf, hd, hs, by simp⟩
        · simp only [Repository.write_files, Option.getD_some, hbp, if_false]
          exact (hinv o n).2 r₀ r h₀ hr b p
    · simp only [Hub.set_repos, hon, if_false] at h''
      exact (hinv o n).2 r₀ r'' h₀ h''

theorem Replicated.run {all : List (String × List String)} {hub₀ : Hub β} :
    ∀ (mappings : List (String × List String)) (hub : Hub β), (∀ m ∈ mappings, m ∈ all) →
      Replicated codec readDefinition all hub₀ hub →
      Replicated codec readDefinition all hub₀ (replicateLoop codec readDefinition fails mappings hub).1
  | [], _, _, hinv => hinv
  | (repoPath, definitionFile) :: mappings, hub, hsub, hinv => by
    simp only [replicateLoop]
    split
    · rename_i hub' h
      exact Replicated.run mappings hub' (fun m hm => hsub m (List.mem_cons_of_mem _ hm))
        (hinv.step (hsub _ (List.mem_cons_self _ _)) h)
    · exact hinv

theorem replicateLoop_frame {o n : String} :
    ∀ (mappings : List (String × List String)) (hub : Hub β),
      (∀ m ∈ mappings, Str.split m.1 '/' ≠ [o, n]) →
      (replicateLoop codec readDefinition fails mappings hub).1.repos o n = hub.repos o n
  | [], _, _ => rfl
  | (repoPath, definitionFile) :: mappings, hub, hne => by
    simp only [replicateLoop]
    split
    · rename_i hub' h
      rw [replicateLoop_frame mappings hub' fun m hm => hne m (List.mem_cons_of_mem _ hm)]
      exact (replicateMapping_repos h o n).2 (hne _ (List.mem_cons_self _ _))
    · rfl

theorem replicateMapping_writes (hf : ∀ o n call b p, fails o n call b p = none)
    {repoPath : String} {definitionFile : List String}
    (h : replicateMapping codec readDefinition fails hub repoPath definitionFile = .ok hub')
    {file definition owner name : String} (hfile : definitionFile.head? = some file)
    (hd : readDefinition file = .ok definition) (hs : Str.split repoPath '/' = [owner, name]) :
    ∃ r₀ r, hub.repos owner name = .ok r₀ ∧ hub'.repos owner name = .ok r ∧
      ((∀ contents, r₀.files "master" pipelineDefinitionsPath = some contents →
          (codec.decode contents).isOk) →
        r.files "master" pipelineDefinitionsPath = some (codec.encode definition)) ∧
      ∀ contents reason, r₀.files "master" pipelineDefinitionsPath = some contents →
        codec.decode contents = .error reason →
        r.files "master" pipelineDefinitionsPath = some contents := by
  obtain ⟨file', definition', owner', name', r, hf', hd', hs', hr, hcase⟩ := replicateMapping_ok h
  obtain ⟨rfl⟩ : file' = file := Option.some.inj (hf'.symm.trans hfile)
  obtain ⟨rfl⟩ : definition' = definition := Except.ok.inj (hd'.symm.trans hd)
  obtain ⟨rfl, rfl⟩ : owner = owner' ∧ name = name' := by simpa using hs.symm.trans hs'
  rcases hcase with ⟨⟨e, he⟩, rfl⟩ | ⟨res, r', hw, rfl⟩
  · -- the write raised: the file does not decode
    refine ⟨r, r, hr, hr, fun hdec => ?_, fun _ _ hc _ => hc⟩
    obtain ⟨_, _, hok, -⟩ : ∃ res r', createOrUpdateFile codec (fails owner name) "master" r
        pipelineDefinitionsPath definition importMessage (some "master") = .ok (res, r') ∧ _ :=
      createOrUpdateFile_of_decodable (fun _ => hf _ _ _ _ _) hdec
    rw [he] at hok
    cases hok
  · refine ⟨r, r', hr, by simp, fun _ => createOrUpdateFile_ok_file hw, fun c reason hc hdc => ?_⟩
    rw [createOrUpdateFile_of_undecodable (fun _ => hf _ _ _ _ _) hc hdc] at hw
    cases hw

end ReplicateSteps

theorem replicate_pipeline_definitions_outcome {β : Type} (codec : Codec β)
    (readDefinition : String → Except PyExc String) (fails : String → String → Failures)
    (repoMappings : RepoMappings) (hub : Hub β) :
    ((replicatePipelineDefinitions codec readDefinition fails repoMappings hub).2 = none ↔
      ∀ m ∈ repoMappings.items, Replicable readDefinition hub m) ∧
    (∀ e, (replicatePipelineDefinitions codec readDefinition fails repoMappings hub).2 = some e →
      ∃ pre m post, repoMappings.items = pre ++ m :: post ∧
        (∀ m' ∈ pre, Replicable readDefinition hub m') ∧
        replicateMapping codec readDefinition fails
          (replicatePipelineDefinitions codec readDefinition fails repoMappings hub).1 m.1 m.2 =
            .error e) ∧
    Replicated codec readDefinition repoMappings.items hub
      (replicatePipelineDefinitions codec readDefinition fails repoMappings hub).1 :=
  ⟨(replicateLoop_stops repoMappings.items hub).1, (replicateLoop_stops repoMappings.items hub).2,
    Replicated.run repoMappings.items hub (fun _ => id) fun _ _ =>
      ⟨fun _ => Iff.rfl, fun r₀ r h₀ h b p => .inl (by rw [Except.ok.inj (h.symm.trans h₀)])⟩⟩

theorem replicate_pipeline_definitions_writes_each {β : Type} (codec : Codec β)
    (readDefinition : String → Except PyExc String) (fails : String → String → Failures)
    (hf : ∀ o n call b p, fails o n call b p = none) (repoMappings : RepoMappings) (hub : Hub β)
    (hrun : (replicatePipelineDefinitions codec readDefinition fails repoMappings hub).2 = none) :
    ∀ m ∈ repoMappings.items, ∀ file definition owner name, m.2.head? = some file →
      readDefinition file = .ok definition → Str.split m.1 '/' = [owner, name] →
      ∃ r₀ r, hub.repos owner name = .ok r₀ ∧
        (replicatePipelineDefinitions codec readDefinition fails repoMappings hub).1.repos owner
          name = .ok r ∧
        ((∀ contents, r₀.files "master" pipelineDefinitionsPath = some contents →
            (codec.decode contents).isOk) →
          r.files "master" pipelineDefinitionsPath = some (codec.encode definition)) ∧
        ∀ contents reason, r₀.files "master" pipelineDefinitionsPath = some contents →
          codec.decode contents = .error reason →
          r.files "master" pipelineDefinitionsPath = some contents := by
  obtain ⟨items, hnodup⟩ := repoMappings
  unfold replicatePipelineDefinitions at hrun ⊢
  dsimp only at hrun hnodup ⊢
  induction items generalizing hub with
  | nil => nofun
  | cons m₀ items ih =>
    obtain ⟨repoPath, definitionFile⟩ := m₀
    rw [List.map_cons, List.nodup_cons] at hnodup
    cases h : replicateMapping codec readDefinition fails hub repoPath definitionFile with
    | error e => simp only [replicateLoop, h] at hrun; cases hrun
    | ok hub' =>
      simp only [replicateLoop, h] at hrun ⊢
      intro m hm file definition owner name hfile hd hs
      rcases List.mem_cons.mp hm with rfl | hm
      · -- this mapping's own step writes the file, and no later one touches its repository
        rw [replicateLoop_frame items hub' fun m hm hsplit =>
          hnodup.1 (List.mem_map.mpr ⟨m, hm, Str.split_injective '/' (hsplit.trans hs.symm)⟩)]
        exact replicateMapping_writes hf h hfile hd hs
      · obtain ⟨r₀, r, hr₀, hfinal⟩ := ih hub' hnodup.2 hrun m hm file definition owner name hfile hd hs
        have hne : Str.split repoPath '/' ≠ [owner, name] := fun hsplit =>
          hnodup.1 (List.mem_map.mpr ⟨m, hm, Str.split_injective '/' (hs.trans hsplit.symm)⟩)
        rw [(replicateMapping_repos h owner name).2 hne] at hr₀
        exact ⟨r₀, r, hr₀, hfinal⟩

def orgRepo : Hub (List UInt32) :=
  ⟨fun o n => if o = "org" ∧ n = "repo" then .ok ⟨fun _ _ => none, []⟩
    else .error ⟨notFoundError, "404 Not Found"⟩⟩

def orgRepoMapping : RepoMappings := ⟨[("org/repo", ["repo.yaml"])], by decide⟩

theorem org_repo_gets_definition :
    (∀ o n call b p, (fun _ _ _ _ _ => none : String → String → Failures) o n call b p = none) ∧
    (replicatePipelineDefinitions utf32 (fun _ => .ok "jobs") (fun _ _ _ _ _ => none)
        orgRepoMapping orgRepo).2 = none ∧
    ∃ r₀ r, orgRepo.repos "org" "repo" = .ok r₀ ∧
      (replicatePipelineDefinitions utf32 (fun _ => .ok "jobs") (fun _ _ _ _ _ => none)
        orgRepoMapping orgRepo).1.repos "org" "repo" = .ok r ∧
      ((∀ contents, r₀.files "master" pipelineDefinitionsPath = some contents →
          (utf32.decode contents).isOk) →
        r.files "master" pipelineDefinitionsPath = some (utf32.encode "jobs")) ∧
      ∀ contents reason, r₀.files "master" pipelineDefinitionsPath = some contents →
        utf32.decode contents = .error reason →
        r.files "master" pipelineDefinitionsPath = some contents :=
  ⟨fun _ _ _ _ _ => rfl, rfl,
    replicate_pipeline_definitions_writes_each utf32 (fun _ => .ok "jobs") (fun _ _ _ _ _ => none)
      (fun _ _ _ _ _ => rfl) orgRepoMapping orgRepo rfl ("org/repo", ["repo.yaml"])
      (List.mem_singleton_self _) "repo.yaml" "jobs" "org" "repo" rfl rfl (by decide)⟩

example : ((replicatePipelineDefinitions utf32 (fun _ => .ok "jobs") (fun _ _ _ _ _ => none)
      orgRepoMapping ⟨fun _ _ => .ok ⟨fun _ _ => some [0xD800], []⟩⟩).1.repos "org" "repo").map
        (·.files "master" pipelineDefinitionsPath) = .ok (some [0xD800]) :=
  rfl

example : (replicatePipelineDefinitions utf32 (fun _ => .ok "jobs") (fun _ _ _ _ _ => none)
      ⟨[("repo", ["a.yaml"]), ("org/repo", ["repo.yaml"])], by decide⟩ orgRepo).2 =
    some ⟨.valueError, "not enough values to unpack (expected 2, got 1)"⟩ := by
  decide

end CcUtils.Github.RepositoryHelper
