import CcUtils.Cnudie.Iter

namespace CcUtils.Github.ComplianceIssue

open CcUtils.Python.Exceptions CcUtils.Python.Effects CcUtils.Python.Effects.Trace
  CcUtils.Cnudie.Iter

def isOcmArtefactNode : Node → Bool
  | .resourceNode _ _ | .sourceNode _ _ => true
  | .componentNode _ => false

/-- The attribute `cnudie.iter.artifact_from_node` that `_name_for_element` reads: `none` for
the module as it stands, which defines no such attribute, or the artefact it gives for a
node. -/
abbrev ArtifactFromNode := Option (Node → Artefact)

def nameForElement (artifactFromNode : ArtifactFromNode) (n : Node) : Except PyExc String :=
  if isOcmArtefactNode n then
    match artifactFromNode with
    | none => .error ⟨.attributeError,
        "module \x27cnudie.iter\x27 has no attribute \x27artifact_from_node\x27"⟩
    | some f => .ok (n.component.name ++ ":" ++ (f n).name)
  else .error ⟨.typeError, n.component.name ++ ":" ++ n.component.version⟩

def digestLabel (artifactFromNode : ArtifactFromNode) (n : Node) : Except PyExc String :=
  nameForElement artifactFromNode n >>= fun _ =>
    .error ⟨.nameError, "name \x27scan_result\x27 is not defined"⟩

def searchLabels (artifactFromNode : ArtifactFromNode) (scannedElement : Option Node)
    (issueType : String) (extraLabels : List String) : Except PyExc (List String) :=
  if issueType = "" then .error ⟨.valueError, "issue_type must not be None or empty"⟩
  else
    let labels := extraLabels ++ ["area/security", "cicd/auto-generated", "cicd/" ++ issueType]
    match scannedElement with
    | none => .ok labels
    | some n => (labels ++ [·]) <$> digestLabel artifactFromNode n

structure Issue where
  number : Nat
  state : String
  labels : List String
  deriving DecidableEq, Repr

inductive Call
  | labels (issue : Nat)
  | createIssue (title body : String) (labels : List String)
  | createComment (issue : Nat) (comment : String)
  | edit (issue : Nat) (body : String) (title : Option String) (labels : List String)
  | close (issue : Nat)
  deriving DecidableEq, Repr

/-- The cache of `_issue_labels`, shared by every call of the process: the labels it holds for
an issue, by the issue's number. -/
abbrev LabelCache := Nat → Option (List String)

def LabelCache.set (cache : LabelCache) (i : Issue) : LabelCache :=
  fun n => if n = i.number then some i.labels else cache n

theorem LabelCache.eq_none_of_set {cache : LabelCache} {i : Issue} {n : Nat}
    (h : cache.set i n = none) : cache n = none := by
  by_cases hn : n = i.number <;> simp_all [LabelCache.set]

def issueLabels (cache : LabelCache) (i : Issue) : Trace Call (List String) :=
  match cache i.number with
  | some labels => pure labels
  | none => emit (.labels i.number) >>= fun _ => pure i.labels

def filterRelevantIssues (labels : List String) (state : String) :
    LabelCache → List Issue → Trace Call (List Issue)
  | _, [] => pure []
  | cache, i :: issues =>
    if i.state ≠ state then filterRelevantIssues labels state cache issues
    else do
      let issueLabels ← issueLabels cache i
      let rest ← filterRelevantIssues labels state (cache.set i) issues
      pure (if ∀ l ∈ labels, l ∈ issueLabels then i :: rest else rest)

def enumerateIssues (cache : LabelCache) (artifactFromNode : ArtifactFromNode)
    (scannedElement : Option Node) (knownIssues : List Issue) (issueType state : String) :
    Trace Call (List Issue) :=
  liftExcept (searchLabels artifactFromNode scannedElement issueType []) >>= fun labels =>
    filterRelevantIssues labels state cache knownIssues

def createIssue (artifactFromNode : ArtifactFromNode) (scannedElement : Option Node)
    (issueType body title : String) (extraLabels : List String)
    (latestProcessingDate : Option String) (newNumber : Nat) : Trace Call Issue :=
  liftExcept (searchLabels artifactFromNode scannedElement issueType extraLabels) >>= fun labels =>
  emit (.createIssue title body labels.dedup) >>= fun _ =>
  let issue : Issue := ⟨newNumber, "open", labels.dedup⟩
  match latestProcessingDate with
  | none => pure issue
  | some date =>
    emit (.createComment issue.number ("latest_processing_date=\x27" ++ date ++ "\x27")) >>= fun _ =>
      pure issue

def updateIssue (artifactFromNode : ArtifactFromNode) (scannedElement : Option Node)
    (issueType body title : String) (issue : Issue) (extraLabels : List String) :
    Trace Call Issue :=
  liftExcept (searchLabels artifactFromNode scannedElement issueType extraLabels) >>= fun labels =>
  emit (.edit issue.number body (if title = "" then none else some title) labels.dedup) >>= fun _ =>
    pure issue

def nameForScannedElement (artifactFromNode : ArtifactFromNode) : Option Node → Except PyExc String
  | none => .error ⟨.typeError, "None"⟩
  | some n => nameForElement artifactFromNode n

/-- `create_or_update_issue`; `fullmatch` is `re.fullmatch`. For several open issues the message
formats `_name_for_element(scanned_element)`. -/
def createOrUpdateIssue (cache : LabelCache) (fullmatch : String → String → Bool)
    (artifactFromNode : ArtifactFromNode)
    (scannedElement : Option Node) (issueType body title : String) (knownIssues : List Issue)
    (extraLabels : List String) (latestProcessingDate : Option String)
    (preserveLabelsRegexes : List String) (newNumber : Nat) : Trace Call Issue :=
  enumerateIssues cache artifactFromNode scannedElement knownIssues issueType "open" >>= fun
    | [] => createIssue artifactFromNode scannedElement issueType body title extraLabels
        latestProcessingDate newNumber
    | [openIssue] =>
      (if preserveLabelsRegexes = [] then pure () else emit (.labels openIssue.number)) >>= fun _ =>
        updateIssue artifactFromNode scannedElement issueType body title openIssue
          (extraLabels ++ openIssue.labels.filter fun l => preserveLabelsRegexes.any (fullmatch · l))
    | _ => liftExcept (nameForScannedElement artifactFromNode scannedElement) >>= fun name =>
        raise ⟨.runtimeError,
          "more than one open issue found for _name_for_element(scanned_element)=\x27" ++ name ++
            "\x27"⟩

def digestLabelError : ArtifactFromNode → PyExc
  | none => ⟨.attributeError, "module \x27cnudie.iter\x27 has no attribute \x27artifact_from_node\x27"⟩
  | some _ => ⟨.nameError, "name \x27scan_result\x27 is not defined"⟩

theorem digestLabel_eq (artifactFromNode : ArtifactFromNode) {n : Node}
    (hn : isOcmArtefactNode n = true) :
    digestLabel artifactFromNode n = .error (digestLabelError artifactFromNode) := by
  cases artifactFromNode <;> simp only [digestLabel, nameForElement, hn, if_true] <;> rfl

theorem searchLabels_node (artifactFromNode : ArtifactFromNode) {n : Node}
    (hn : isOcmArtefactNode n = true) {issueType : String} (hty : issueType ≠ "")
    (extraLabels : List String) :
    searchLabels artifactFromNode (some n) issueType extraLabels =
      .error (digestLabelError artifactFromNode) := by
  simp only [searchLabels, if_neg hty, digestLabel_eq artifactFromNode hn]
  rfl

theorem create_or_update_issue_raises_for_node (cache : LabelCache) (fullmatch : String → String → Bool)
    (artifactFromNode : ArtifactFromNode) (n : Node) (hn : isOcmArtefactNode n = true)
    (issueType body title : String) (hty : issueType ≠ "") (knownIssues : List Issue)
    (extraLabels : List String) (latestProcessingDate : Option String)
    (preserveLabelsRegexes : List String) (newNumber : Nat) :
    createOrUpdateIssue cache fullmatch artifactFromNode (some n) issueType body title knownIssues
        extraLabels latestProcessingDate preserveLabelsRegexes newNumber =
      raise (digestLabelError artifactFromNode) := by
  simp only [createOrUpdateIssue, enumerateIssues, searchLabels_node artifactFromNode hn hty]
  rfl

def imageNode : Node :=
  .resourceNode ⟨[], ⟨⟨"example.org/component", "1.0.0", [image], [], [], none⟩,
    .componentReference⟩⟩ image

theorem image_issue_not_created :
    (createOrUpdateIssue (fun _ => none) (fun _ _ => false) none (some imageNode) "malware" "found"
      "title" [] [] none [] 1).calls = [] :=
  congrArg Trace.calls (create_or_update_issue_raises_for_node (fun _ => none) (fun _ _ => false) none imageNode
    rfl "malware" "found" "title" (by decide) [] [] none [] 1)

def closingComment : String := "closing ticket, because there are no longer unassessed findings"

def closeIssues (issues : List Issue) : Trace Call (Option Issue) :=
  issues.forM (fun issue => emit (.createComment issue.number closingComment) >>= fun _ =>
    emit (.close issue.number)) >>= fun _ => pure issues.getLast?

/-- `close_issue_if_present`, returning `None` as `none`. The log messages for several open
issues and for none format `_name_for_element(scanned_element)`; the one before the loop
requests the first issue's labels. -/
def closeIssueIfPresent (cache : LabelCache) (artifactFromNode : ArtifactFromNode)
    (scannedElement : Option Node) (issueType : String) (knownIssues : List Issue) :
    Trace Call (Option Issue) :=
  enumerateIssues cache artifactFromNode scannedElement knownIssues issueType "open" >>= fun
    | [] => liftExcept (nameForScannedElement artifactFromNode scannedElement) >>= fun _ =>
        pure none
    | [openIssue] => emit (.labels openIssue.number) >>= fun _ => closeIssues [openIssue]
    | openIssue :: openIssues =>
      liftExcept (nameForScannedElement artifactFromNode scannedElement) >>= fun _ =>
        emit (.labels openIssue.number) >>= fun _ => closeIssues (openIssue :: openIssues)

theorem digestLabel_error (artifactFromNode : ArtifactFromNode) (n : Node) :
    ∃ e, digestLabel artifactFromNode n = .error e := by
  unfold digestLabel
  cases nameForElement artifactFromNode n with
  | error e => exact ⟨e, rfl⟩
  | ok _ => exact ⟨_, rfl⟩

theorem eq_none_of_searchLabels_ok {artifactFromNode : ArtifactFromNode}
    {scannedElement : Option Node} {issueType : String} {extraLabels labels : List String}
    (h : searchLabels artifactFromNode scannedElement issueType extraLabels = .ok labels) :
    scannedElement = none := by
  unfold searchLabels at h
  split at h
  · cases h
  · cases scannedElement with
    | none => rfl
    | some n =>
      obtain ⟨e, he⟩ := digestLabel_error artifactFromNode n
      dsimp only at h
      rw [he] at h
      cases h

/-- The label reads of `filter_relevant_issues`: one for each issue in the state whose labels
the cache does not hold yet. -/
def labelReads (state : String) : LabelCache → List Issue → List Call
  | _, [] => []
  | cache, i :: issues =>
    if i.state ≠ state then labelReads state cache issues
    else match cache i.number with
      | some _ => labelReads state (cache.set i) issues
      | none => .labels i.number :: labelReads state (cache.set i) issues

/-- The issues `filter_relevant_issues` keeps, by the labels the cache holds or reads. -/
def relevantIssues (labels : List String) (state : String) : LabelCache → List Issue → List Issue
  | _, [] => []
  | cache, i :: issues =>
    if i.state ≠ state then relevantIssues labels state cache issues
    else if ∀ l ∈ labels, l ∈ (cache i.number).getD i.labels then
      i :: relevantIssues labels state (cache.set i) issues
    else relevantIssues labels state (cache.set i) issues

theorem issueLabels_eq (cache : LabelCache) (i : Issue) :
    issueLabels cache i = ⟨match cache i.number with
      | some _ => []
      | none => [.labels i.number], .ok ((cache i.number).getD i.labels)⟩ := by
  unfold issueLabels
  cases cache i.number <;> rfl

theorem filterRelevantIssues_eq (labels : List String) (state : String) :
    ∀ (cache : LabelCache) (issues : List Issue), filterRelevantIssues labels state cache issues =
      ⟨labelReads state cache issues, .ok (relevantIssues labels state cache issues)⟩
  | _, [] => rfl
  | cache, i :: issues => by
    by_cases hs : i.state = state
    · have hrest := filterRelevantIssues_eq labels state (cache.set i) issues
      simp only [filterRelevantIssues, labelReads, relevantIssues, hs, ne_eq, not_true_eq_false,
        if_false, issueLabels_eq, hrest, mk_ok_bind, pure_calls, pure_result, List.append_nil]
      cases cache i.number <;> split_ifs <;> rfl
    · simp only [filterRelevantIssues, labelReads, relevantIssues, hs, ne_eq, not_false_eq_true,
        if_true, filterRelevantIssues_eq labels state cache issues]

theorem mem_labelReads {state : String} {c : Call} :
    ∀ {cache : LabelCache} {issues : List Issue}, c ∈ labelReads state cache issues →
      ∃ i ∈ issues, i.state = state ∧ cache i.number = none ∧ c = .labels i.number
  | _, [], h => nomatch h
  | cache, i :: issues, h => by
    have htail : c ∈ labelReads state (cache.set i) issues →
        ∃ j ∈ i :: issues, j.state = state ∧ cache j.number = none ∧ c = .labels j.number :=
      fun h' => by
        obtain ⟨j, hj, hjs, hjc, rfl⟩ := mem_labelReads h'
        exact ⟨j, List.mem_cons_of_mem _ hj, hjs, LabelCache.eq_none_of_set hjc, rfl⟩
    unfold labelReads at h
    split at h
    · obtain ⟨j, hj, hjs, hjc, rfl⟩ := mem_labelReads h
      exact ⟨j, List.mem_cons_of_mem _ hj, hjs, hjc, rfl⟩
    · next hs =>
      split at h
      · exact htail h
      · next hc =>
        rcases List.mem_cons.mp h with rfl | h
        · exact ⟨i, List.mem_cons_self _ _, not_not.mp hs, hc, rfl⟩
        · exact htail h

theorem enumerateIssues_eq (cache : LabelCache) (artifactFromNode : ArtifactFromNode)
    (scannedElement : Option Node) (knownIssues : List Issue) (issueType state : String) :
    enumerateIssues cache artifactFromNode scannedElement knownIssues issueType state =
      match searchLabels artifactFromNode scannedElement issueType [] with
      | .error e => raise e
      | .ok labels => ⟨labelReads state cache knownIssues,
          .ok (relevantIssues labels state cache knownIssues)⟩ := by
  unfold enumerateIssues
  rcases searchLabels artifactFromNode scannedElement issueType [] with e | labels
  · rfl
  · exact filterRelevantIssues_eq labels state cache knownIssues

theorem enumerateIssues_ok {cache : LabelCache} {artifactFromNode : ArtifactFromNode}
    {scannedElement : Option Node} {knownIssues issues : List Issue} {issueType state : String}
    (h : (enumerateIssues cache artifactFromNode scannedElement knownIssues issueType state).result =
      .ok issues) :
    scannedElement = none ∧
      (enumerateIssues cache artifactFromNode scannedElement knownIssues issueType state).calls =
        labelReads state cache knownIssues := by
  rw [enumerateIssues_eq] at h ⊢
  split at h
  · cases h
  · next hs => exact ⟨eq_none_of_searchLabels_ok hs, rfl⟩

theorem enumerateIssues_calls (cache : LabelCache) (artifactFromNode : ArtifactFromNode)
    (scannedElement : Option Node) (knownIssues : List Issue) (issueType state : String) :
    ∀ c ∈ (enumerateIssues cache artifactFromNode scannedElement knownIssues issueType state).calls,
      ∃ i ∈ knownIssues, i.state = state ∧ cache i.number = none ∧ c = .labels i.number := by
  rw [enumerateIssues_eq]
  split
  · simp
  · exact fun c hc => mem_labelReads hc

theorem close_issue_if_present_closes_sole_issue (cache : LabelCache)
    (artifactFromNode : ArtifactFromNode) (scannedElement : Option Node) (issueType : String)
    (knownIssues : List Issue) :
    (∀ c ∈ (enumerateIssues cache artifactFromNode scannedElement knownIssues issueType "open").calls,
      ∃ i ∈ knownIssues, i.state = "open" ∧ cache i.number = none ∧ c = .labels i.number) ∧
    (∀ i, (enumerateIssues cache artifactFromNode scannedElement knownIssues issueType
        "open").result = .ok [i] →
      closeIssueIfPresent cache artifactFromNode scannedElement issueType knownIssues =
        ⟨(enumerateIssues cache artifactFromNode scannedElement knownIssues issueType "open").calls ++
          [.labels i.number, .createComment i.number closingComment, .close i.number],
          .ok (some i)⟩) ∧
    ((∀ i, (enumerateIssues cache artifactFromNode scannedElement knownIssues issueType
        "open").result ≠ .ok [i]) →
      ∃ e, closeIssueIfPresent cache artifactFromNode scannedElement issueType knownIssues =
          ⟨(enumerateIssues cache artifactFromNode scannedElement knownIssues issueType "open").calls,
            .error (.raised e)⟩ ∧
        ((enumerateIssues cache artifactFromNode scannedElement knownIssues issueType "open").result =
          .error (.raised e) ∨ e = ⟨.typeError, "None"⟩)) := by
  refine ⟨enumerateIssues_calls cache artifactFromNode scannedElement knownIssues issueType "open",
    fun i h => by rw [closeIssueIfPresent, bind_of_ok h]; rfl, fun hne => ?_⟩
  rcases h : (enumerateIssues cache artifactFromNode scannedElement knownIssues issueType
    "open").result with x | issues
  · obtain ⟨e, rfl⟩ : ∃ e, x = .raised e := by
      rw [enumerateIssues_eq] at h
      split at h <;> cases h
      exact ⟨_, rfl⟩
    exact ⟨e, by rw [closeIssueIfPresent, bind_of_error h], .inl rfl⟩
  · obtain ⟨rfl, -⟩ := enumerateIssues_ok h
    refine ⟨_, ?_, .inr rfl⟩
    rw [closeIssueIfPresent, bind_of_ok h]
    rcases issues with _ | ⟨i, _ | ⟨j, rest⟩⟩
    · simp [nameForScannedElement]
    · exact absurd h (hne i)
    · simp [nameForScannedElement]

def malwareLabels : List String := ["area/security", "cicd/auto-generated", "cicd/malware"]

example : closeIssueIfPresent (fun _ => none) none none "malware" [⟨1, "open", malwareLabels⟩] =
      ⟨[.labels 1, .labels 1, .createComment 1 closingComment, .close 1],
        .ok (some ⟨1, "open", malwareLabels⟩)⟩ ∧
    closeIssueIfPresent (fun n => if n = 1 then some malwareLabels else none) none none "malware"
        [⟨1, "open", []⟩] =
      ⟨[.labels 1, .createComment 1 closingComment, .close 1], .ok (some ⟨1, "open", []⟩)⟩ ∧
    closeIssueIfPresent (fun _ => none) none none "malware"
        [⟨1, "open", malwareLabels⟩, ⟨2, "closed", malwareLabels⟩, ⟨3, "open", malwareLabels⟩] =
      ⟨[.labels 1, .labels 3], .error (.raised ⟨.typeError, "None"⟩)⟩ :=
  ⟨rfl, rfl, rfl⟩

theorem create_or_update_issue_several_open_raises_type_error (cache : LabelCache)
    (fullmatch : String → String → Bool) (artifactFromNode : ArtifactFromNode)
    (scannedElement : Option Node) (issueType body title : String) (knownIssues : List Issue)
    (extraLabels : List String) (latestProcessingDate : Option String)
    (preserveLabelsRegexes : List String) (newNumber : Nat) (i j : Issue) (rest : List Issue)
    (h : (enumerateIssues cache artifactFromNode scannedElement knownIssues issueType "open").result =
      .ok (i :: j :: rest)) :
    createOrUpdateIssue cache fullmatch artifactFromNode scannedElement issueType body title
        knownIssues extraLabels latestProcessingDate preserveLabelsRegexes newNumber =
      ⟨labelReads "open" cache knownIssues, .error (.raised ⟨.typeError, "None"⟩)⟩ := by
  obtain ⟨rfl, hcalls⟩ := enumerateIssues_ok h
  rw [createOrUpdateIssue, bind_of_ok h, hcalls]
  simp [nameForScannedElement]

theorem two_open_issues_raise_type_error :
    (enumerateIssues (fun _ => none) none none [⟨1, "open", malwareLabels⟩, ⟨2, "open", malwareLabels⟩]
        "malware" "open").result = .ok [⟨1, "open", malwareLabels⟩, ⟨2, "open", malwareLabels⟩] ∧
    createOrUpdateIssue (fun _ => none) (fun _ _ => false) none none "malware" "found" "title"
        [⟨1, "open", malwareLabels⟩, ⟨2, "open", malwareLabels⟩] [] none [] 1 =
      ⟨[.labels 1, .labels 2], .error (.raised ⟨.typeError, "None"⟩)⟩ :=
  ⟨rfl, create_or_update_issue_several_open_raises_type_error (fun _ => none) (fun _ _ => false) none
    none "malware" "found" "title" [⟨1, "open", malwareLabels⟩, ⟨2, "open", malwareLabels⟩] [] none
    [] 1 ⟨1, "open", malwareLabels⟩ ⟨2, "open", malwareLabels⟩ [] rfl⟩

end CcUtils.Github.ComplianceIssue
