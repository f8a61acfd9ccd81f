import CcUtils.Python.Effects
import CcUtils.Python.Objects
import CcUtils.Python.Str

namespace CcUtils.Mailutil

open CcUtils.Python CcUtils.Python.Exceptions CcUtils.Python.Effects CcUtils.Python.Effects.Trace
  CcUtils.Python.Objects

structure Gen where
  yields : List String
  raised : Option PyExc

def yieldFrom (g : Gen) : Trace String Unit :=
  g.yields.forM emit >>= fun _ =>
  match g.raised with
  | some e => raise e
  | none => pure ()

/-- What the recipients' lookups read of the world: the GitHub API of a config name, the head
commits of work trees, `resolve_email_addresses`, `version.greatest_version` and the CODEOWNERS
parsers of components. -/
structure MailServices (γ κ ρ : Type) where
  githubApi : String → Except PyExc γ
  headCommit : String → Except PyExc (String × String)
  localCodeowners : γ → List String → Gen
  codeownersFiles : γ → List String → Gen
  greatestVersion : List String → Except PyExc String
  codeownersParser : κ → Except PyExc ρ
  resolve : ρ → Gen

structure Recipients (κ : Type) where
  srcDirs : List String
  components : List κ
  componentNames : List String
  codeownersFiles : List String
  componentDescriptorLookup : Option (String × String → Except PyExc κ)
  versionLookup : Option (String → Except PyExc (List String))

def noneNotCallable : PyExc := ⟨.typeError, "\x27NoneType\x27 object is not callable"⟩

def onlyOneError : PyExc := ⟨.valueError, "only one of components, component_names must be set"⟩

def lookupRequiredError : PyExc :=
  ⟨.valueError, "If component_names is given, component_descriptor_lookup must also be given"⟩

def oneOfError : PyExc := ⟨.valueError, "One of components and component_names must be given"⟩

section Recipients

variable {γ κ ρ : Type} (s : MailServices γ κ ρ) (lower : String → String)

def determineHeadCommitRecipients : List String → Trace String Unit
  | [] => pure ()
  | srcDir :: srcDirs =>
    liftExcept (s.headCommit srcDir) >>= fun commit =>
    emit (lower commit.1) >>= fun _ =>
    emit (lower commit.2) >>= fun _ =>
    determineHeadCommitRecipients srcDirs

def codeownersParserFromComponentName
    (componentDescriptorLookup : Option (String × String → Except PyExc κ))
    (versionLookup : Option (String → Except PyExc (List String))) (componentName : String) :
    Except PyExc ρ :=
  match versionLookup with
  | none => .error noneNotCallable
  | some versionLookup => do
    let greatestVersion ← s.greatestVersion (← versionLookup componentName)
    match componentDescriptorLookup with
    | none => .error noneNotCallable
    | some lookup => s.codeownersParser (← lookup (componentName, greatestVersion))

/-- `determine_mail_recipients`, iterated to its end: the arguments are checked at the first
`next`, and the parsers of the components are all built before the first is resolved. -/
def determineMailRecipients (githubCfgName : String) (a : Recipients κ) : Trace String Unit :=
  if a.components.isEmpty ∧ a.componentNames.isEmpty ∧ a.srcDirs.isEmpty ∧
      a.codeownersFiles.isEmpty then pure ()
  else if !a.components.isEmpty ∧ !a.componentNames.isEmpty then raise onlyOneError
  else if !a.componentNames.isEmpty ∧ a.componentDescriptorLookup.isNone then
    raise lookupRequiredError
  else
    liftExcept (s.githubApi githubCfgName) >>= fun githubApi =>
    determineHeadCommitRecipients s lower a.srcDirs >>= fun _ =>
    yieldFrom (s.localCodeowners githubApi a.srcDirs) >>= fun _ =>
    yieldFrom (s.codeownersFiles githubApi a.codeownersFiles) >>= fun _ =>
    (if !a.componentNames.isEmpty then
      liftExcept (a.componentNames.mapM
        (codeownersParserFromComponentName s a.componentDescriptorLookup a.versionLookup))
    else if !a.components.isEmpty then liftExcept (a.components.mapM s.codeownersParser)
    else raise oneOfError) >>= fun entriesAndApis =>
    entriesAndApis.forM fun p => yieldFrom (s.resolve p)

end Recipients

def commitAddresses (lower : String → String) (commits : List (String × String)) : List String :=
  commits.flatMap fun c => [lower c.1, lower c.2]

section Lemmas

variable {γ κ ρ : Type} {s : MailServices γ κ ρ} {lower : String → String}

theorem yieldFrom_of_none {g : Gen} (h : g.raised = none) : yieldFrom g = ⟨g.yields, .ok ()⟩ := by
  have hl : g.yields.forM emit = (⟨g.yields, .ok ()⟩ : Trace String Unit) := by
    induction g.yields with
    | nil => rfl
    | cons a as ih => rw [List.forM_cons', emit_bind, ih]
  rw [yieldFrom, hl, h, mk_ok_bind]
  exact congrArg₂ Trace.mk (List.append_nil _) rfl

theorem determineHeadCommitRecipients_of_ok :
    ∀ {srcDirs : List String} {commits : List (String × String)},
      srcDirs.mapM s.headCommit = .ok commits →
      determineHeadCommitRecipients s lower srcDirs = ⟨commitAddresses lower commits, .ok ()⟩
  | [], commits, h => by cases h; rfl
  | srcDir :: srcDirs, commits, h => by
    rw [List.mapM_cons] at h
    cases hc : s.headCommit srcDir with
    | error e => rw [hc] at h; cases h
    | ok c =>
      cases hcs : srcDirs.mapM s.headCommit with
      | error e => rw [hc, hcs] at h; cases h
      | ok cs =>
        rw [hc, hcs] at h
        cases h
        rw [determineHeadCommitRecipients, hc, liftExcept_ok, pure_bind, emit_bind, emit_bind,
          determineHeadCommitRecipients_of_ok hcs]
        rfl

theorem yieldFrom_raises (g : Gen) : Raises (yieldFrom g) := by
  refine Raises.bind ?_ fun _ _ => ?_
  · rw [Raises, forM_result_ok.mpr fun _ _ => rfl]
    exact fun h => by cases h
  · cases g.raised
    · exact Raises.pure ()
    · exact Raises.raise _

theorem determineHeadCommitRecipients_raises :
    ∀ srcDirs : List String, Raises (determineHeadCommitRecipients s lower srcDirs)
  | [] => Raises.pure ()
  | _ :: srcDirs =>
    (Raises.liftExcept _).bind fun _ _ => (Raises.emit _).bind fun _ _ =>
      (Raises.emit _).bind fun _ _ => determineHeadCommitRecipients_raises srcDirs

end Lemmas

theorem mail_recipients_without_components_raise {γ κ ρ : Type} (s : MailServices γ κ ρ)
    (lower : String → String) (githubCfgName : String) (a : Recipients κ)
    (hcomponents : a.components = [])
    (hnames : a.componentNames = []) (hgiven : a.srcDirs ≠ [] ∨ a.codeownersFiles ≠ []) :
    (∃ e, (determineMailRecipients s lower githubCfgName a).result = .error (.raised e)) ∧
    ∀ githubApi commits, s.githubApi githubCfgName = .ok githubApi →
      a.srcDirs.mapM s.headCommit = .ok commits →
      (s.localCodeowners githubApi a.srcDirs).raised = none →
      (s.codeownersFiles githubApi a.codeownersFiles).raised = none →
      determineMailRecipients s lower githubCfgName a =
        ⟨commitAddresses lower commits ++ (s.localCodeowners githubApi a.srcDirs).yields ++
          (s.codeownersFiles githubApi a.codeownersFiles).yields, .error (.raised oneOfError)⟩ := by
  have hbody : determineMailRecipients s lower githubCfgName a =
      liftExcept (s.githubApi githubCfgName) >>= fun githubApi =>
      determineHeadCommitRecipients s lower a.srcDirs >>= fun _ =>
      yieldFrom (s.localCodeowners githubApi a.srcDirs) >>= fun _ =>
      yieldFrom (s.codeownersFiles githubApi a.codeownersFiles) >>= fun _ =>
      (raise oneOfError : Trace String (List ρ)) >>= fun entriesAndApis =>
      entriesAndApis.forM fun p => yieldFrom (s.resolve p) := by
    have hgiven' : ¬ (a.srcDirs.isEmpty ∧ a.codeownersFiles.isEmpty) := by
      rcases hgiven with h | h <;> simp [h]
    simp only [determineMailRecipients, hcomponents, hnames, List.isEmpty_nil, true_and, hgiven',
      if_false, Bool.not_true, Bool.false_eq_true, and_false, false_and]
  refine ⟨?_, fun githubApi commits hapi hcommits hlocal hfiles => ?_⟩
  · rw [hbody]
    exact (Raises.liftExcept _).bind_raised fun _ _ =>
      (determineHeadCommitRecipients_raises _).bind_raised fun _ _ =>
        (yieldFrom_raises _).bind_raised fun _ _ => (yieldFrom_raises _).bind_raised fun _ _ =>
          ⟨oneOfError, rfl⟩
  · rw [hbody, hapi, liftExcept_ok, Trace.pure_bind, determineHeadCommitRecipients_of_ok hcommits,
      mk_ok_bind, yieldFrom_of_none hlocal, mk_ok_bind, yieldFrom_of_none hfiles, mk_ok_bind,
      raise_bind]
    simp only [raise, List.append_nil, List.append_assoc]

theorem one_work_tree_recipients_raise :
    determineMailRecipients (κ := Unit) (ρ := Unit)
        ⟨fun _ => .ok (), fun _ => .ok ("Author@Example.org", "committer@example.org"),
          fun _ _ => ⟨["owner@example.org"], none⟩, fun _ _ => ⟨[], none⟩, fun _ => .ok "1.0.0",
          fun _ => .ok (), fun _ => ⟨[], none⟩⟩
        Str.asciiLower "github" ⟨["repo"], [], [], [], none, none⟩ =
      ⟨["author@example.org", "committer@example.org", "owner@example.org"],
        .error (.raised oneOfError)⟩ :=
  (mail_recipients_without_components_raise _ Str.asciiLower "github"
    ⟨["repo"], [], [], [], none, none⟩ rfl rfl (.inl (List.cons_ne_nil _ _))).2 ()
    [("Author@Example.org", "committer@example.org")] rfl rfl rfl rfl

inductive Token
  | str (s : String)
  | other
  deriving DecidableEq, Repr

def Token.invalid : Token → Bool
  | .str s => decide ('=' ∉ s.toList)
  | .other => true

structure PyIter (α : Type) where
  remaining : List α

def PyIter.toList {α : Type} (it : PyIter α) : List α × PyIter α := (it.remaining, ⟨[]⟩)

def Token.joined : Token → Except PyExc String
  | .str s => .ok s
  | .other => .error ⟨.typeError, "sequence item: expected str instance"⟩

def joinTokens (tokens : List Token) : Except PyExc String :=
  (tokens.mapM Token.joined).map (" ".intercalate ·)

def splitOnce (s : String) (sep : Char) : List String :=
  if sep ∈ s.toList then
    [⟨s.toList.takeWhile (· ≠ sep)⟩, ⟨(s.toList.dropWhile (· ≠ sep)).drop 1⟩]
  else [s]

def replaceTokenMessage : String := "all replace-tokens must be of form <key>=<value>: "

def notPairError : PyExc :=
  ⟨.valueError, "dictionary update sequence element has length 1; 2 is required"⟩

def Token.pair : Token → Except PyExc (String × String)
  | .str t =>
    match splitOnce t '=' with
    | [k, v] => .ok (k, v)
    | _ => .error notPairError
  | .other => .error ⟨.typeError, "\x27object\x27 object is not iterable"⟩

/-- The replace tokens of `send_mail`: the check, whose `fail` (of `ci.util`, defined outside
src/) raises an exception made from its message, and then the items of the `dict`. -/
def parseReplaceTokens (fail : String → PyExc) (replaceToken : List Token) :
    Except PyExc (List (String × String)) :=
  let invalidTokens : PyIter Token := ⟨replaceToken.filter Token.invalid⟩
  let listed := invalidTokens.toList
  if listed.1.length > 0 then do
    let joined ← joinTokens listed.2.remaining
    .error (fail (replaceTokenMessage ++ joined))
  else pyDict <$> replaceToken.mapM Token.pair

theorem takeWhile_append_dropWhile_ne {sep : Char} :
    ∀ {l : List Char}, sep ∈ l →
      l.takeWhile (· ≠ sep) ++ sep :: (l.dropWhile (· ≠ sep)).drop 1 = l
  | c :: l, h => by
    by_cases hc : c = sep
    · subst hc
      simp
    · have hl : sep ∈ l := (List.mem_cons.mp h).resolve_left (Ne.symm hc)
      simp only [List.takeWhile_cons_of_pos (p := fun x => decide (x ≠ sep)) (by simpa using hc),
        List.dropWhile_cons_of_pos (p := fun x => decide (x ≠ sep)) (by simpa using hc),
        List.cons_append, takeWhile_append_dropWhile_ne hl]

theorem not_mem_takeWhile_ne (sep : Char) (l : List Char) : sep ∉ l.takeWhile (· ≠ sep) :=
  fun h => by simpa using List.mem_takeWhile_imp h

theorem splitOnce_of_mem {t : String} (h : '=' ∈ t.toList) :
    ∃ k v, splitOnce t '=' = [k, v] ∧ k ++ "=" ++ v = t ∧ '=' ∉ k.toList := by
  refine ⟨_, _, if_pos h, ?_, not_mem_takeWhile_ne _ _⟩
  apply String.ext
  calc (_ : String).data = t.toList.takeWhile (· ≠ '=') ++ '=' :: (t.toList.dropWhile (· ≠ '=')).drop 1 := by
        simp only [String.data_append, List.append_assoc]
        rfl
    _ = t.data := takeWhile_append_dropWhile_ne h

theorem mapM_pair_of_valid :
    ∀ {tokens : List Token}, (∀ t ∈ tokens, t.invalid = false) →
      ∃ pairs, tokens.mapM Token.pair = .ok pairs ∧
        List.Forall₂ (fun t p => t = .str (p.1 ++ "=" ++ p.2) ∧ '=' ∉ p.1.toList) tokens pairs
  | [], _ => ⟨[], rfl, .nil⟩
  | t :: ts, hvalid => by
    cases t with
    | other => cases hvalid .other (List.mem_cons_self _ _)
    | str t =>
      have hmem : '=' ∈ t.toList := by
        simpa [Token.invalid] using hvalid (.str t) (List.mem_cons_self _ _)
      obtain ⟨k, v, hsplit, hkv, hk⟩ := splitOnce_of_mem hmem
      obtain ⟨ps, hps, hrel⟩ := mapM_pair_of_valid fun t ht => hvalid t (List.mem_cons_of_mem _ ht)
      refine ⟨(k, v) :: ps, ?_, .cons ⟨by rw [hkv], hk⟩ hrel⟩
      simp only [List.mapM_cons, Token.pair, hsplit, hps, except_ok_bind]
      rfl

theorem send_mail_rejects_tokens_unnamed (fail : String → PyExc) (replaceToken : List Token) :
    ((∃ t ∈ replaceToken, t.invalid = true) →
      parseReplaceTokens fail replaceToken = .error (fail replaceTokenMessage)) ∧
    ((∀ t ∈ replaceToken, t.invalid = false) →
      ∃ pairs, parseReplaceTokens fail replaceToken = .ok (pyDict pairs) ∧
        List.Forall₂ (fun t p => t = .str (p.1 ++ "=" ++ p.2) ∧ '=' ∉ p.1.toList)
          replaceToken pairs ∧
        ((pyDict pairs).map Prod.fst).Nodup ∧
        (∀ k, k ∈ (pyDict pairs).map Prod.fst ↔ k ∈ pairs.map Prod.fst) ∧
        ∀ k, (pyDict pairs).lookup k = pairs.reverse.lookup k) := by
  refine ⟨fun ⟨t, ht, hinv⟩ => ?_, fun hvalid => ?_⟩
  · have hlen : (replaceToken.filter Token.invalid).length > 0 :=
      List.length_pos.mpr (List.ne_nil_of_mem (List.mem_filter.mpr ⟨ht, hinv⟩))
    have hjoin : joinTokens [] = .ok "" := rfl
    simp only [parseReplaceTokens, PyIter.toList, hlen, if_true, hjoin, except_ok_bind,
      String.append_empty]
  · obtain ⟨pairs, hpairs, hrel⟩ := mapM_pair_of_valid hvalid
    have hnil : replaceToken.filter Token.invalid = [] :=
      List.filter_eq_nil_iff.mpr fun t ht => by simp [hvalid t ht]
    refine ⟨pairs, ?_, hrel, (keys_pyDict pairs).1, (keys_pyDict pairs).2, lookup_pyDict pairs⟩
    simp only [parseReplaceTokens, PyIter.toList, hnil, List.length_nil, gt_iff_lt,
      Nat.lt_irrefl, if_false, hpairs]
    rfl

example : parseReplaceTokens (fun msg => ⟨.runtimeError, msg⟩) [.str "a=b=c", .str "bad"] =
      .error ⟨.runtimeError, "all replace-tokens must be of form <key>=<value>: "⟩ ∧
    parseReplaceTokens (fun msg => ⟨.runtimeError, msg⟩) [.str "a=b=c", .str "d=1", .str "a=2"] =
      .ok [("a", "2"), ("d", "1")] :=
  ⟨rfl, rfl⟩

end CcUtils.Mailutil
