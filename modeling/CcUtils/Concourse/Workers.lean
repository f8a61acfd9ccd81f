import CcUtils.Concourse.Descriptor
import Mathlib

namespace CcUtils.Concourse.Workers

open CcUtils.Python.Exceptions CcUtils.Concourse.Descriptor

def maxWorkers : Nat := 16

structure Stages where
  preprocess : DefinitionDescriptor → Except PyExc DefinitionDescriptor
  render : DefinitionDescriptor → Except PyExc RenderResult
  deploy : DefinitionDescriptor → Except PyExc DeployResult

inductive Phase
  | queued
  | rendered (result : RenderResult)
  | claimed (result : RenderResult)
  | finished (outcome : Except PyExc DeployResult)

def Phase.isQueued : Phase → Bool
  | .queued => true
  | _ => false

def Phase.isRunning : Phase → Bool
  | .rendered _ | .claimed _ => true
  | _ => false

def Phase.isFinished : Phase → Bool
  | .finished _ => true
  | _ => false

/-- The shared state of a replication run: `_pipeline_names` (each name with the worker
that inserted it), one phase per enumerated descriptor, and the calls made to
`definition_deployer.deploy` (each with the worker that made it). -/
structure State where
  pipelineNames : List (String × Nat)
  tasks : List Phase
  deployCalls : List (Nat × DefinitionDescriptor)

def init (ds : List DefinitionDescriptor) : State := ⟨[], ds.map fun _ => .queued, []⟩

def skippedResult (d : DefinitionDescriptor) (details : Option ErrorDetails) : DeployResult :=
  ⟨d, .skipped, details⟩

def renderOf (st : Stages) (d : DefinitionDescriptor) : Except PyExc RenderResult :=
  st.preprocess d >>= st.render

/-- The part of `_process_definition_descriptor` before the name check: the shortcut for an
enumeration exception, preprocessing and rendering. It reads no shared state, so it is one
step of the interleaving. -/
def begin (st : Stages) (d : DefinitionDescriptor) : Phase :=
  match d.exception with
  | some e => .finished (.ok (skippedResult d (some (.exception e))))
  | none =>
    match renderOf st d with
    | .ok r => .rendered r
    | .error e => .finished (.error e)

def duplicateResult (d : DefinitionDescriptor) (r : RenderResult) : DeployResult :=
  skippedResult d (some (.text ("duplicate pipeline name: " ++ r.definitionDescriptor.pipelineName)))

/-- `_pipeline_name_conflict` under `_pipeline_names_lock`, one atomic step, with the early
exit of the worker upon a conflict. -/
def pipelineNameConflict (s : State) (i : Nat) (d : DefinitionDescriptor) (r : RenderResult) :
    State :=
  if r.definitionDescriptor.pipelineName ∈ s.pipelineNames.map Prod.fst then
    { s with tasks := s.tasks.set i (.finished (.ok (duplicateResult d r))) }
  else
    { s with pipelineNames := s.pipelineNames ++ [(r.definitionDescriptor.pipelineName, i)],
             tasks := s.tasks.set i (.claimed r) }

def deployOrSkip (st : Stages) (s : State) (i : Nat) (d : DefinitionDescriptor)
    (r : RenderResult) : State :=
  if r.renderStatus = .succeeded then
    { s with tasks := s.tasks.set i (.finished (st.deploy r.definitionDescriptor)),
             deployCalls := s.deployCalls ++ [(i, r.definitionDescriptor)] }
  else
    { s with tasks := s.tasks.set i (.finished (.ok (skippedResult d r.errorDetails))) }

def canStart (s : State) (i : Nat) : Bool :=
  (s.tasks.take i).all (fun p => !p.isQueued) && s.tasks.countP Phase.isRunning < maxWorkers

def step (st : Stages) (ds : List DefinitionDescriptor) (s : State) (i : Nat) : Option State :=
  match s.tasks[i]?, ds[i]? with
  | some .queued, some d =>
    if canStart s i then some { s with tasks := s.tasks.set i (begin st d) } else none
  | some (.rendered r), some d => some (pipelineNameConflict s i d r)
  | some (.claimed r), some d => some (deployOrSkip st s i d r)
  | _, _ => none

def run (st : Stages) (ds : List DefinitionDescriptor) : State → List Nat → State
  | s, [] => s
  | s, i :: sched => run st ds ((step st ds s i).getD s) sched

def collect : List Phase → Option (Except PyExc (List DeployResult))
  | [] => some (.ok [])
  | .finished (.error e) :: _ => some (.error e)
  | .finished (.ok r) :: ps => (collect ps).map fun rs => rs.map (r :: ·)
  | _ :: _ => none

theorem step_cases {st : Stages} {ds : List DefinitionDescriptor} {s s' : State} {i : Nat}
    (h : step st ds s i = some s') : ∃ d, ds[i]? = some d ∧
      ((s.tasks[i]? = some .queued ∧ canStart s i ∧
          s' = { s with tasks := s.tasks.set i (begin st d) }) ∨
        (∃ r, s.tasks[i]? = some (.rendered r) ∧ s' = pipelineNameConflict s i d r) ∨
        (∃ r, s.tasks[i]? = some (.claimed r) ∧ s' = deployOrSkip st s i d r)) := by
  unfold step at h
  split at h
  · rename_i d ht hd
    split at h
    · exact ⟨d, hd, .inl ⟨ht, ‹_›, (Option.some.inj h).symm⟩⟩
    · cases h
  · rename_i r d ht hd
    exact ⟨d, hd, .inr (.inl ⟨r, ht, (Option.some.inj h).symm⟩)⟩
  · rename_i r d ht hd
    exact ⟨d, hd, .inr (.inr ⟨r, ht, (Option.some.inj h).symm⟩)⟩
  · cases h

inductive WorkerResult (st : Stages) (d : DefinitionDescriptor) : DeployResult → Prop
  | enumerationError {e} : d.exception = some e →
      WorkerResult st d (skippedResult d (some (.exception e)))
  | duplicate {r} : d.exception = none → renderOf st d = .ok r →
      WorkerResult st d (duplicateResult d r)
  | deployed {r res} : d.exception = none → renderOf st d = .ok r →
      r.renderStatus = .succeeded → st.deploy r.definitionDescriptor = .ok res →
      WorkerResult st d res
  | renderFailed {r} : d.exception = none → renderOf st d = .ok r →
      r.renderStatus ≠ .succeeded → WorkerResult st d (skippedResult d r.errorDetails)

inductive Raised (st : Stages) (d : DefinitionDescriptor) (e : PyExc) : Prop
  | rendering : d.exception = none → renderOf st d = .error e → Raised st d e
  | deploying {r} : d.exception = none → renderOf st d = .ok r →
      r.renderStatus = .succeeded → st.deploy r.definitionDescriptor = .error e → Raised st d e

def PhaseOk (st : Stages) (d : DefinitionDescriptor) : Phase → Prop
  | .queued => True
  | .rendered r => d.exception = none ∧ renderOf st d = .ok r
  | .claimed r => d.exception = none ∧ renderOf st d = .ok r
  | .finished (.ok res) => WorkerResult st d res
  | .finished (.error e) => Raised st d e

structure Inv (st : Stages) (ds : List DefinitionDescriptor) (s : State) : Prop where
  length : s.tasks.length = ds.length
  phase : ∀ (i : Nat) d p, ds[i]? = some d → s.tasks[i]? = some p → PhaseOk st d p
  names_nodup : (s.pipelineNames.map Prod.fst).Nodup
  claimed_holds : ∀ (i : Nat) r, s.tasks[i]? = some (.claimed r) →
    (r.definitionDescriptor.pipelineName, i) ∈ s.pipelineNames
  deploy_holds : ∀ (i : Nat) d, (i, d) ∈ s.deployCalls →
    (d.pipelineName, i) ∈ s.pipelineNames ∧ ∃ o, s.tasks[i]? = some (.finished o)
  deploy_nodup : (s.deployCalls.map Prod.fst).Nodup

variable {st : Stages} {ds : List DefinitionDescriptor} {s s' : State} {i : Nat}
  {d : DefinitionDescriptor}

theorem inv_init : Inv st ds (init ds) where
  length := by simp [init]
  phase i d p _ hp := by
    simp only [init, List.getElem?_map] at hp
    obtain ⟨_, _, rfl⟩ := Option.map_eq_some'.mp hp
    trivial
  names_nodup := List.nodup_nil
  claimed_holds i r h := by
    simp only [init, List.getElem?_map] at h
    obtain ⟨_, _, h⟩ := Option.map_eq_some'.mp h
    cases h
  deploy_holds _ _ h := by simp [init] at h
  deploy_nodup := List.nodup_nil

theorem getElem?_set_eq_some {l : List α} {a b : α} {j : Nat} (hi : i < l.length)
    (h : (l.set i a)[j]? = some b) : i = j ∧ b = a ∨ i ≠ j ∧ l[j]? = some b := by
  by_cases hij : i = j
  · subst hij
    rw [List.getElem?_set_self hi] at h
    exact .inl ⟨rfl, (Option.some.inj h).symm⟩
  · rw [List.getElem?_set_ne hij] at h
    exact .inr ⟨hij, h⟩

theorem Inv.update (hinv : Inv st ds s) (hd : ds[i]? = some d) {p : Phase}
    (hp : s.tasks[i]? = some p) (hpf : p.isFinished = false)
    {names : List (String × Nat)} {calls : List (Nat × DefinitionDescriptor)} (p' : Phase)
    (hsub : ∀ x ∈ s.pipelineNames, x ∈ names) (hnodup : (names.map Prod.fst).Nodup)
    (hok : PhaseOk st d p')
    (hclaim : ∀ r, p' = .claimed r → (r.definitionDescriptor.pipelineName, i) ∈ names)
    (hcalls : calls = s.deployCalls ∨ ∃ e o, p' = .finished o ∧
      (e.pipelineName, i) ∈ names ∧ calls = s.deployCalls ++ [(i, e)]) :
    Inv st ds ⟨names, s.tasks.set i p', calls⟩ := by
  have hi : i < s.tasks.length := (List.getElem?_eq_some_iff.mp hp).1
  have hnot : ∀ e, (i, e) ∉ s.deployCalls := fun e he => by
    obtain ⟨_, o, ho⟩ := hinv.deploy_holds i e he
    rw [hp] at ho
    cases ho
    simp [Phase.isFinished] at hpf
  have hold : ∀ j e, (j, e) ∈ s.deployCalls →
      (e.pipelineName, j) ∈ names ∧ ∃ o, (s.tasks.set i p')[j]? = some (.finished o) := by
    intro j e he
    obtain ⟨hn, o, ho⟩ := hinv.deploy_holds j e he
    have hij : i ≠ j := by rintro rfl; exact hnot e he
    exact ⟨hsub _ hn, o, by rw [List.getElem?_set_ne hij, ho]⟩
  refine ⟨by simp [hinv.length], ?_, hnodup, ?_, ?_, ?_⟩
  · intro j d' q hj hq
    rcases getElem?_set_eq_some hi hq with ⟨rfl, rfl⟩ | ⟨_, hq⟩
    · rw [hd] at hj
      cases hj
      exact hok
    · exact hinv.phase j d' q hj hq
  · intro j r hq
    rcases getElem?_set_eq_some hi hq with ⟨rfl, h⟩ | ⟨_, hq⟩
    · exact hclaim r h.symm
    · exact hsub _ (hinv.claimed_holds j r hq)
  · rcases hcalls with rfl | ⟨e, o, rfl, hn, rfl⟩
    · exact hold
    · intro j e' he'
      rcases List.mem_append.mp he' with he' | he'
      · exact hold j e' he'
      · obtain ⟨rfl, rfl⟩ := Prod.mk.inj (List.mem_singleton.mp he')
        exact ⟨hn, o, List.getElem?_set_self hi⟩
  · rcases hcalls with rfl | ⟨e, o, -, -, rfl⟩
    · exact hinv.deploy_nodup
    · rw [List.map_append, List.nodup_append]
      refine ⟨hinv.deploy_nodup, List.nodup_singleton _, ?_⟩
      simp only [List.map_cons, List.map_nil, List.disjoint_singleton, List.mem_map, not_exists,
        not_and]
      rintro ⟨j, e'⟩ he' rfl
      exact hnot e' he'

theorem phaseOk_begin : PhaseOk st d (begin st d) := by
  unfold begin
  split
  · exact .enumerationError ‹_›
  · split
    · exact ⟨‹_›, ‹_›⟩
    · exact .rendering ‹_› ‹_›

theorem begin_ne_claimed (r : RenderResult) : begin st d ≠ .claimed r := by
  unfold begin
  split
  · nofun
  · split <;> nofun

theorem step_inv (hinv : Inv st ds s) (h : step st ds s i = some s') : Inv st ds s' := by
  obtain ⟨d, hd, ⟨hp, -, rfl⟩ | ⟨r, hp, rfl⟩ | ⟨r, hp, rfl⟩⟩ := step_cases h
  · exact hinv.update hd hp rfl _ (fun _ h => h) hinv.names_nodup phaseOk_begin
      (fun r h => absurd h (begin_ne_claimed r)) (.inl rfl)
  · obtain ⟨hx, hr⟩ : d.exception = none ∧ renderOf st d = .ok r := hinv.phase i d _ hd hp
    unfold pipelineNameConflict
    split
    · exact hinv.update hd hp rfl (.finished (.ok (duplicateResult d r))) (fun _ h => h)
        hinv.names_nodup (.duplicate hx hr) (fun _ h => by cases h) (.inl rfl)
    · rename_i hn
      refine hinv.update hd hp rfl (.claimed r) (fun _ h => List.mem_append_left _ h) ?_
        ⟨hx, hr⟩ (fun _ h => by cases h; simp) (.inl rfl)
      rw [List.map_append, List.nodup_append]
      exact ⟨hinv.names_nodup, List.nodup_singleton _, by simpa using hn⟩
  · obtain ⟨hx, hr⟩ : d.exception = none ∧ renderOf st d = .ok r := hinv.phase i d _ hd hp
    unfold deployOrSkip
    split
    · rename_i hs
      have hok : PhaseOk st d (.finished (st.deploy r.definitionDescriptor)) := by
        cases hdep : st.deploy r.definitionDescriptor with
        | ok res => exact .deployed hx hr hs hdep
        | error e => exact .deploying hx hr hs hdep
      exact hinv.update hd hp rfl _ (fun _ h => h) hinv.names_nodup hok (fun _ h => by cases h)
        (.inr ⟨_, _, rfl, hinv.claimed_holds i r hp, rfl⟩)
    · exact hinv.update hd hp rfl (.finished (.ok (skippedResult d r.errorDetails)))
        (fun _ h => h) hinv.names_nodup (.renderFailed hx hr ‹_›) (fun _ h => by cases h) (.inl rfl)

theorem run_inv (hinv : Inv st ds s) (sched : List Nat) : Inv st ds (run st ds s sched) := by
  induction sched generalizing s with
  | nil => exact hinv
  | cons i sched ih =>
    cases h : step st ds s i with
    | none => simpa [run, h] using ih hinv
    | some s' => simpa [run, h] using ih (step_inv hinv h)

def Phase.rank : Phase → Nat
  | .queued => 3
  | .rendered _ => 2
  | .claimed _ => 1
  | .finished _ => 0

def work (s : State) : Nat := (s.tasks.map Phase.rank).sum

def Done (s : State) : Prop := ∀ p ∈ s.tasks, p.isFinished = true

instance : DecidablePred Done := fun s => inferInstanceAs (Decidable (∀ p ∈ s.tasks, _))

def NeverRaises (st : Stages) : Prop :=
  ∀ d e, st.preprocess d ≠ .error e ∧ st.render d ≠ .error e ∧ st.deploy d ≠ .error e

theorem not_raised (hno : NeverRaises st) (e : PyExc) : ¬ Raised st d e := by
  rintro (⟨-, h⟩ | ⟨-, -, -, h⟩)
  · unfold renderOf at h
    cases hp : st.preprocess d with
    | error e' => rw [hp] at h; cases h; exact (hno d e).1 hp
    | ok p => rw [hp] at h; exact (hno p e).2.1 h
  · exact (hno _ e).2.2 h

theorem step_shape (h : step st ds s i = some s') : ∃ p p', s.tasks[i]? = some p ∧
    p'.rank < p.rank ∧ s'.tasks = s.tasks.set i p' ∧
    (s'.deployCalls = s.deployCalls ∨ ∃ e, s'.deployCalls = s.deployCalls ++ [(i, e)]) := by
  obtain ⟨d, -, ⟨hp, -, rfl⟩ | ⟨r, hp, rfl⟩ | ⟨r, hp, rfl⟩⟩ := step_cases h
  · refine ⟨_, _, hp, ?_, rfl, .inl rfl⟩
    unfold begin
    split
    · simp [Phase.rank]
    · split <;> simp [Phase.rank]
  · unfold pipelineNameConflict
    split
    · exact ⟨_, _, hp, by simp [Phase.rank], rfl, .inl rfl⟩
    · exact ⟨_, _, hp, by simp [Phase.rank], rfl, .inl rfl⟩
  · unfold deployOrSkip
    split
    · exact ⟨_, _, hp, by simp [Phase.rank], rfl, .inr ⟨_, rfl⟩⟩
    · exact ⟨_, _, hp, by simp [Phase.rank], rfl, .inl rfl⟩

theorem sum_set_add (l : List Nat) (i a : Nat) (h : i < l.length) :
    (l.set i a).sum + l[i] = l.sum + a := by
  induction l generalizing i with
  | nil => cases h
  | cons x l ih =>
    cases i with
    | zero => simp; omega
    | succ i =>
      have := ih i (by simpa using h)
      simp only [List.set_cons_succ, List.sum_cons, List.getElem_cons_succ]
      omega

theorem work_step (h : step st ds s i = some s') : work s' < work s := by
  obtain ⟨p, p', hp, hlt, ht, -⟩ := step_shape h
  obtain ⟨hi, rfl⟩ := List.getElem?_eq_some_iff.mp hp
  have := sum_set_add (s.tasks.map Phase.rank) i p'.rank (by simpa using hi)
  simp only [List.getElem_map] at this
  simp only [work, ht, List.map_set]
  omega

theorem exists_step (hinv : Inv st ds s) (h : ¬ Done s) : ∃ i s', step st ds s i = some s' := by
  have hd : ∀ j p, s.tasks[j]? = some p → ∃ d, ds[j]? = some d := fun j p hp => by
    have := (List.getElem?_eq_some_iff.mp hp).1
    exact ⟨_, List.getElem?_eq_getElem (hinv.length ▸ this)⟩
  by_cases hrun : ∃ p ∈ s.tasks, p.isRunning
  · obtain ⟨p, hp, hr⟩ := hrun
    obtain ⟨j, hj⟩ := List.mem_iff_getElem?.mp hp
    obtain ⟨d, hdj⟩ := hd j p hj
    cases p with
    | rendered r => exact ⟨j, pipelineNameConflict s j d r, by simp [step, hj, hdj]⟩
    | claimed r => exact ⟨j, deployOrSkip st s j d r, by simp [step, hj, hdj]⟩
    | queued | finished _ => simp [Phase.isRunning] at hr
  · push_neg at hrun
    have hq : ∃ p ∈ s.tasks, p.isQueued := by
      simp only [Done, not_forall] at h
      obtain ⟨p, hp, hf⟩ := h
      refine ⟨p, hp, ?_⟩
      have := hrun p hp
      cases p <;> simp_all [Phase.isQueued, Phase.isRunning, Phase.isFinished]
    have hj := List.findIdx_lt_length_of_exists hq
    set j := s.tasks.findIdx Phase.isQueued
    have hjq := List.findIdx_getElem (w := hj)
    obtain ⟨d, hdj⟩ := hd j _ (List.getElem?_eq_getElem hj)
    have hstart : canStart s j = true := by
      simp only [canStart, Bool.and_eq_true, List.all_eq_true, decide_eq_true_eq]
      refine ⟨fun p hp => ?_, ?_⟩
      · obtain ⟨k, hk, rfl⟩ := List.mem_take_iff_getElem.mp hp
        simpa using List.not_of_lt_findIdx (lt_of_lt_of_le hk (min_le_left _ _))
      · rw [List.countP_eq_zero.mpr (fun p hp => by simpa using hrun p hp)]
        decide
    refine ⟨j, { s with tasks := s.tasks.set j (begin st d) }, ?_⟩
    simp only [step, List.getElem?_eq_getElem hj, hdj]
    cases htj : s.tasks[j] with
    | queued => simp [hstart]
    | _ => simp [htj, Phase.isQueued] at hjq

theorem collect_done {ts : List Phase} (hl : ts.length = ds.length)
    (hok : ∀ (i : Nat) d p, ds[i]? = some d → ts[i]? = some p → PhaseOk st d p)
    (hf : ∀ p ∈ ts, p.isFinished = true) :
    (∃ rs, collect ts = some (.ok rs) ∧ List.Forall₂ (WorkerResult st) ds rs) ∨
    (∃ (k : Nat) (d : DefinitionDescriptor) (e : PyExc), ds[k]? = some d ∧ ts[k]? = some (.finished (.error e)) ∧ Raised st d e ∧
      (∀ j < k, ∃ r, ts[j]? = some (.finished (.ok r))) ∧ collect ts = some (.error e)) := by
  induction ds generalizing ts with
  | nil => exact .inl ⟨[], by simp [List.length_eq_zero.mp hl, collect], .nil⟩
  | cons d ds ih =>
    obtain ⟨p, ts, rfl⟩ := List.exists_cons_of_length_eq_add_one hl
    have h0 := hok 0 d p (by simp) (by simp)
    have hp := hf p (List.mem_cons_self _ _)
    cases p with
    | finished o =>
      cases o with
      | error e =>
        exact .inr ⟨0, d, e, by simp, by simp, h0, fun j hj => absurd hj (Nat.not_lt_zero j), rfl⟩
      | ok res =>
        rcases @ih ts (by simpa using hl)
          (fun i d q hd hq => hok (i + 1) d q (by simpa using hd) (by simpa using hq))
          (fun q hq => hf q (List.mem_cons_of_mem _ hq)) with
          ⟨rs, hc, hrs⟩ | ⟨k, d', e, hd, hk, hr, hpre, hc⟩
        · exact .inl ⟨res :: rs, by simp only [collect, hc, Option.map_some']; rfl, .cons h0 hrs⟩
        · refine .inr ⟨k + 1, d', e, by simpa using hd, by simpa using hk, hr, fun j hj => ?_,
            by simp only [collect, hc, Option.map_some']; rfl⟩
          cases j with
          | zero => exact ⟨res, by simp⟩
          | succ j => simpa using hpre j (by omega)
    | _ => simp [Phase.isFinished] at hp

theorem collect_ok (hno : NeverRaises st) {ts : List Phase} (hl : ts.length = ds.length)
    (hok : ∀ (i : Nat) d p, ds[i]? = some d → ts[i]? = some p → PhaseOk st d p)
    (hf : ∀ p ∈ ts, p.isFinished = true) :
    ∃ rs, collect ts = some (.ok rs) ∧ List.Forall₂ (WorkerResult st) ds rs :=
  (collect_done hl hok hf).resolve_right fun ⟨_, _, e, _, _, hr, _⟩ => not_raised hno e hr

theorem deploy_names_nodup (hinv : Inv st ds s) :
    (s.deployCalls.map fun c => c.2.pipelineName).Nodup := by
  refine (hinv.deploy_nodup.of_map Prod.fst).map_on ?_
  rintro ⟨i, d⟩ hd ⟨j, e⟩ he hde
  have hij : i = j := by
    have := List.inj_on_of_nodup_map hinv.names_nodup (hinv.deploy_holds i d hd).1
      (hinv.deploy_holds j e he).1 hde
    exact (Prod.mk.inj this).2
  subst hij
  exact List.inj_on_of_nodup_map hinv.deploy_nodup hd he rfl

theorem step_keeps_finished {j : Nat} {o : Except PyExc DeployResult}
    (h : step st ds s j = some s') (hi : s.tasks[i]? = some (.finished o)) :
    s'.tasks[i]? = some (.finished o) ∧ ∀ e, (i, e) ∈ s'.deployCalls → (i, e) ∈ s.deployCalls := by
  obtain ⟨p, p', hp, hlt, ht, hc⟩ := step_shape h
  have hji : j ≠ i := by
    rintro rfl
    rw [hi] at hp
    cases hp
    simp [Phase.rank] at hlt
  refine ⟨by rw [ht, List.getElem?_set_ne hji, hi], fun e he => ?_⟩
  rcases hc with hc | ⟨e', hc⟩
  · rwa [hc] at he
  · rw [hc, List.mem_append, List.mem_singleton] at he
    exact he.resolve_right (fun h => hji (Prod.mk.inj h).1.symm)

theorem run_keeps_finished {o : Except PyExc DeployResult} (sched : List Nat)
    (hi : s.tasks[i]? = some (.finished o)) (hn : ∀ e, (i, e) ∉ s.deployCalls) :
    (run st ds s sched).tasks[i]? = some (.finished o) ∧
      ∀ e, (i, e) ∉ (run st ds s sched).deployCalls := by
  induction sched generalizing s with
  | nil => exact ⟨hi, hn⟩
  | cons j sched ih =>
    cases h : step st ds s j with
    | none => simpa [run, h] using ih hi hn
    | some s' =>
      obtain ⟨hi', hc⟩ := step_keeps_finished h hi
      simpa [run, h] using ih hi' (fun e he => hn e (hc e he))

theorem duplicate_skipped {r : RenderResult} (hinv : Inv st ds s) (hd : ds[i]? = some d)
    (hp : s.tasks[i]? = some (.rendered r))
    (hn : r.definitionDescriptor.pipelineName ∈ s.pipelineNames.map Prod.fst) (sched : List Nat) :
    (run st ds s (i :: sched)).tasks[i]? = some (.finished (.ok (duplicateResult d r))) ∧
      ∀ e, (i, e) ∉ (run st ds s (i :: sched)).deployCalls := by
  have hi : i < s.tasks.length := (List.getElem?_eq_some_iff.mp hp).1
  have hs : step st ds s i = some { s with tasks := s.tasks.set i (.finished (.ok (duplicateResult d r))) } := by
    simp [step, hp, hd, pipelineNameConflict, hn]
  simp only [run, hs, Option.getD_some]
  refine run_keeps_finished sched (List.getElem?_set_self hi) (fun e he => ?_)
  obtain ⟨_, o, ho⟩ := hinv.deploy_holds i e he
  rw [hp] at ho
  cases ho

theorem replicate_interleavings_correct (st : Stages) (ds : List DefinitionDescriptor)
    (sched : List Nat) :
    ((run st ds (init ds) sched).deployCalls.map fun c => c.2.pipelineName).Nodup ∧
    (¬ Done (run st ds (init ds) sched) → ∃ i s', step st ds (run st ds (init ds) sched) i = some s' ∧
      work s' < work (run st ds (init ds) sched)) ∧
    (NeverRaises st → Done (run st ds (init ds) sched) →
      ∃ rs, collect (run st ds (init ds) sched).tasks = some (.ok rs) ∧
        List.Forall₂ (WorkerResult st) ds rs) ∧
    (∀ i d r, ds[i]? = some d → (run st ds (init ds) sched).tasks[i]? = some (.rendered r) →
      r.definitionDescriptor.pipelineName ∈ (run st ds (init ds) sched).pipelineNames.map Prod.fst →
      ∀ sched', (run st ds (run st ds (init ds) sched) (i :: sched')).tasks[i]? =
          some (.finished (.ok (duplicateResult d r))) ∧
        ∀ e, (i, e) ∉ (run st ds (run st ds (init ds) sched) (i :: sched')).deployCalls) := by
  have hinv := run_inv (inv_init : Inv st ds (init ds)) sched
  refine ⟨?_, fun h => ?_, fun hno hdone => ?_, fun i d r hd hp hn sched' =>
    duplicate_skipped hinv hd hp hn sched'⟩
  · exact deploy_names_nodup hinv
  · obtain ⟨i, s', hs⟩ := exists_step hinv h
    exact ⟨i, s', hs, work_step hs⟩
  · exact collect_ok hno hinv.length hinv.phase hdone

def echoStages : Stages :=
  ⟨fun d => .ok d, fun d => .ok ⟨d, .succeeded, none, none⟩, fun d => .ok ⟨d, .succeeded, none⟩⟩

def twinA : DefinitionDescriptor := ⟨"app", "cfg", "team", some "a", none⟩

def twinB : DefinitionDescriptor := ⟨"app", "cfg", "team", some "b", none⟩

def twinDescriptors : List DefinitionDescriptor := [twinA, twinB]

theorem echo_stages_never_raise : NeverRaises echoStages := fun _ _ => ⟨nofun, nofun, nofun⟩

theorem twins_replicated_in_turn :
    NeverRaises echoStages ∧
    Done (run echoStages twinDescriptors (init twinDescriptors) [0, 0, 0, 1, 1, 1]) ∧
    ∃ rs, collect (run echoStages twinDescriptors (init twinDescriptors) [0, 0, 0, 1, 1, 1]).tasks =
      some (.ok rs) ∧ List.Forall₂ (WorkerResult echoStages) twinDescriptors rs := by
  have hdone : Done (run echoStages twinDescriptors (init twinDescriptors) [0, 0, 0, 1, 1, 1]) := by
    decide
  exact ⟨echo_stages_never_raise, hdone,
    (replicate_interleavings_correct _ _ _).2.2.1 echo_stages_never_raise hdone⟩

def raisingPreprocessor : Stages :=
  ⟨fun _ => .error ⟨.valueError, "invalid pipeline definition"⟩,
    fun d => .ok ⟨d, .succeeded, none, none⟩, fun d => .ok ⟨d, .succeeded, none⟩⟩

def appDescriptor : DefinitionDescriptor := ⟨"app", "cfg", "team", none, none⟩

theorem preprocess_exception_escapes :
    collect (run raisingPreprocessor [appDescriptor] (init [appDescriptor]) [0]).tasks =
      some (.error ⟨.valueError, "invalid pipeline definition"⟩) := by
  rfl

theorem replicate_reraises_first_worker_exception (st : Stages) (ds : List DefinitionDescriptor)
    (sched : List Nat) (hdone : Done (run st ds (init ds) sched)) :
    (∃ rs, collect (run st ds (init ds) sched).tasks = some (.ok rs) ∧
      List.Forall₂ (WorkerResult st) ds rs) ∨
    (∃ (k : Nat) (d : DefinitionDescriptor) (e : PyExc), ds[k]? = some d ∧ Raised st d e ∧
      (run st ds (init ds) sched).tasks[k]? = some (.finished (.error e)) ∧
      (∀ j < k, ∃ r, (run st ds (init ds) sched).tasks[j]? = some (.finished (.ok r))) ∧
      collect (run st ds (init ds) sched).tasks = some (.error e)) := by
  have hinv := run_inv (inv_init : Inv st ds (init ds)) sched
  exact (collect_done hinv.length hinv.phase hdone).imp_right
    fun ⟨k, d, e, hd, hk, hr, hj, hc⟩ => ⟨k, d, e, hd, hr, hk, hj, hc⟩

theorem raising_preprocessor_reraised :
    Done (run raisingPreprocessor [appDescriptor] (init [appDescriptor]) [0]) ∧
    ((∃ rs, collect (run raisingPreprocessor [appDescriptor] (init [appDescriptor]) [0]).tasks =
        some (.ok rs) ∧ List.Forall₂ (WorkerResult raisingPreprocessor) [appDescriptor] rs) ∨
      (∃ (k : Nat) (d : DefinitionDescriptor) (e : PyExc), [appDescriptor][k]? = some d ∧
        Raised raisingPreprocessor d e ∧
        (run raisingPreprocessor [appDescriptor] (init [appDescriptor]) [0]).tasks[k]? =
          some (.finished (.error e)) ∧
        (∀ j < k, ∃ r, (run raisingPreprocessor [appDescriptor] (init [appDescriptor]) [0]).tasks[j]? =
          some (.finished (.ok r))) ∧
        collect (run raisingPreprocessor [appDescriptor] (init [appDescriptor]) [0]).tasks =
          some (.error e))) := by
  have hdone : Done (run raisingPreprocessor [appDescriptor] (init [appDescriptor]) [0]) := by
    decide
  exact ⟨hdone, replicate_reraises_first_worker_exception _ _ _ hdone⟩

def claimOutcome (st : Stages) (d : DefinitionDescriptor) (r : RenderResult) :
    Except PyExc DeployResult :=
  if r.renderStatus = .succeeded then st.deploy r.definitionDescriptor
  else .ok (skippedResult d r.errorDetails)

theorem deployOrSkip_eq (st : Stages) (s : State) (i : Nat) (d : DefinitionDescriptor)
    (r : RenderResult) : deployOrSkip st s i d r =
      ⟨s.pipelineNames, s.tasks.set i (.finished (claimOutcome st d r)),
        if r.renderStatus = .succeeded then s.deployCalls ++ [(i, r.definitionDescriptor)]
        else s.deployCalls⟩ := by
  unfold deployOrSkip claimOutcome
  split <;> rfl

theorem begin_of_renderOf {r : RenderResult} (hx : d.exception = none)
    (hr : renderOf st d = .ok r) : begin st d = .rendered r := by
  simp [begin, hx, hr]

structure Claims (st : Stages) (ds : List DefinitionDescriptor) (s : State) : Prop where
  holder : ∀ n j, (n, j) ∈ s.pipelineNames → ∃ d r, ds[j]? = some d ∧ d.exception = none ∧
    renderOf st d = .ok r ∧ r.definitionDescriptor.pipelineName = n ∧
    (s.tasks[j]? = some (.claimed r) ∨ s.tasks[j]? = some (.finished (claimOutcome st d r)) ∧
      (r.renderStatus = .succeeded → (j, r.definitionDescriptor) ∈ s.deployCalls))
  settled : ∀ i d r o, ds[i]? = some d → renderOf st d = .ok r → d.exception = none →
    s.tasks[i]? = some (.finished o) →
    (r.definitionDescriptor.pipelineName, i) ∈ s.pipelineNames ∨
      o = .ok (duplicateResult d r) ∧
        r.definitionDescriptor.pipelineName ∈ s.pipelineNames.map Prod.fst
  deployed : ∀ j e, (j, e) ∈ s.deployCalls → ∃ d r, ds[j]? = some d ∧ renderOf st d = .ok r ∧
    r.renderStatus = .succeeded ∧ r.definitionDescriptor = e

theorem claims_init : Claims st ds (init ds) where
  holder _ _ h := by simp [init] at h
  settled i d r o _ _ _ h := by
    simp only [init, List.getElem?_map] at h
    obtain ⟨_, _, h⟩ := Option.map_eq_some'.mp h
    cases h
  deployed _ _ h := by simp [init] at h

theorem Claims.update (hc : Claims st ds s) (hd : ds[i]? = some d) (hi : i < s.tasks.length)
    {names : List (String × Nat)} {calls : List (Nat × DefinitionDescriptor)} (p' : Phase)
    (hnames : ∀ n j, (n, j) ∈ names → j ≠ i → (n, j) ∈ s.pipelineNames)
    (hsub : ∀ x ∈ s.pipelineNames, x ∈ names) (hcalls : ∀ c ∈ s.deployCalls, c ∈ calls)
    (hown : ∀ n, (n, i) ∈ names → ∃ r, d.exception = none ∧ renderOf st d = .ok r ∧
      r.definitionDescriptor.pipelineName = n ∧ (p' = .claimed r ∨
        p' = .finished (claimOutcome st d r) ∧
          (r.renderStatus = .succeeded → (i, r.definitionDescriptor) ∈ calls)))
    (hsettled : ∀ r o, p' = .finished o → renderOf st d = .ok r → d.exception = none →
      (r.definitionDescriptor.pipelineName, i) ∈ names ∨
        o = .ok (duplicateResult d r) ∧ r.definitionDescriptor.pipelineName ∈ names.map Prod.fst)
    (hdeployed : ∀ j e, (j, e) ∈ calls → (j, e) ∈ s.deployCalls ∨
      j = i ∧ ∃ r, renderOf st d = .ok r ∧ r.renderStatus = .succeeded ∧
        r.definitionDescriptor = e) :
    Claims st ds ⟨names, s.tasks.set i p', calls⟩ where
  holder n j h := by
    by_cases hij : j = i
    · subst hij
      obtain ⟨r, hx, hr, hn, hp'⟩ := hown n h
      exact ⟨d, r, hd, hx, hr, hn, by simpa [List.getElem?_set_self hi] using hp'⟩
    · obtain ⟨d', r', hd', hx, hr, hn, hp⟩ := hc.holder n j (hnames n j h hij)
      refine ⟨d', r', hd', hx, hr, hn, ?_⟩
      rw [List.getElem?_set_ne (Ne.symm hij)]
      exact hp.imp_right fun ⟨ht, hdep⟩ => ⟨ht, fun hs => hcalls _ (hdep hs)⟩
  settled j d' r o hd' hr hx h := by
    rcases getElem?_set_eq_some hi h with ⟨rfl, hp⟩ | ⟨-, h⟩
    · obtain rfl : d' = d := Option.some.inj (hd'.symm.trans hd)
      exact hsettled r o hp.symm hr hx
    · refine (hc.settled j d' r o hd' hr hx h).imp (hsub _) fun ⟨ho, hn⟩ => ⟨ho, ?_⟩
      obtain ⟨x, hx, hxe⟩ := List.mem_map.mp hn
      exact List.mem_map.mpr ⟨x, hsub x hx, hxe⟩
  deployed j e h := by
    rcases hdeployed j e h with h | ⟨rfl, r, hr, hs, he⟩
    · exact hc.deployed j e h
    · exact ⟨d, r, hd, hr, hs, he⟩

theorem Claims.not_mem_of_unclaimed (hc : Claims st ds s) {p : Phase}
    (hp : s.tasks[i]? = some p) (hq : 2 ≤ p.rank) (n : String) : (n, i) ∉ s.pipelineNames :=
  fun h => by
    obtain ⟨_, _, _, _, _, _, h | ⟨h, -⟩⟩ := hc.holder n i h <;> rw [hp] at h <;> cases h <;>
      simp [Phase.rank] at hq

theorem Claims.step (hinv : Inv st ds s) (hc : Claims st ds s) (h : step st ds s i = some s') :
    Claims st ds s' := by
  obtain ⟨d, hd, ⟨hp, -, rfl⟩ | ⟨r, hp, rfl⟩ | ⟨r, hp, rfl⟩⟩ := step_cases h
  all_goals have hi : i < s.tasks.length := (List.getElem?_eq_some_iff.mp hp).1
  · refine hc.update hd hi (begin st d) (fun _ _ h _ => h) (fun _ h => h) (fun _ h => h)
      (fun n h => absurd h (hc.not_mem_of_unclaimed hp (by decide) n)) (fun r o ho hr hx => ?_)
      (fun _ _ h => .inl h)
    rw [begin_of_renderOf hx hr] at ho
    cases ho
  · obtain ⟨hx, hr⟩ : d.exception = none ∧ renderOf st d = .ok r := hinv.phase i d _ hd hp
    have hfree := hc.not_mem_of_unclaimed hp le_rfl
    unfold pipelineNameConflict
    split
    · refine hc.update hd hi _ (fun _ _ h _ => h) (fun _ h => h) (fun _ h => h)
        (fun n h => absurd h (hfree n)) (fun r' o ho hr' _ => ?_) (fun _ _ h => .inl h)
      obtain rfl : r' = r := Except.ok.inj (hr'.symm.trans hr)
      cases ho
      exact .inr ⟨rfl, ‹_›⟩
    · refine hc.update hd hi (.claimed r) (fun n j h hj => ?_) (fun _ h => List.mem_append_left _ h)
        (fun _ h => h) (fun n h => ?_) (fun _ _ h => by cases h) (fun _ _ h => .inl h)
      · simpa [hj] using h
      · rcases List.mem_append.mp h with h | h
        · exact absurd h (hfree n)
        · obtain ⟨rfl, -⟩ := Prod.mk.inj (List.mem_singleton.mp h)
          exact ⟨r, hx, hr, rfl, .inl rfl⟩
  · obtain ⟨hx, hr⟩ : d.exception = none ∧ renderOf st d = .ok r := hinv.phase i d _ hd hp
    rw [deployOrSkip_eq]
    refine hc.update hd hi _ (fun _ _ h _ => h) (fun _ h => h) (fun c h => ?_) (fun n h => ?_)
      (fun r' o ho hr' _ => ?_) (fun j e h => ?_)
    · split <;> simp [h]
    · obtain ⟨d', r', hd', -, -, hn, hp'⟩ := hc.holder n i h
      obtain rfl : d' = d := Option.some.inj (hd'.symm.trans hd)
      obtain rfl : r' = r := by
        rcases hp' with h' | ⟨h', -⟩ <;> rw [hp] at h' <;> cases h'
        rfl
      exact ⟨r', hx, hr, hn, .inr ⟨rfl, fun hs => by simp [hs]⟩⟩
    · obtain rfl : r' = r := Except.ok.inj (hr'.symm.trans hr)
      cases ho
      exact .inl (hinv.claimed_holds i r' hp)
    · split at h
      · rcases List.mem_append.mp h with h | h
        · exact .inl h
        · obtain ⟨rfl, rfl⟩ := Prod.mk.inj (List.mem_singleton.mp h)
          exact .inr ⟨rfl, r, hr, ‹_›, rfl⟩
      · exact .inl h

theorem run_claims (hinv : Inv st ds s) (hc : Claims st ds s) (sched : List Nat) :
    Claims st ds (run st ds s sched) := by
  induction sched generalizing s with
  | nil => exact hc
  | cons i sched ih =>
    cases h : step st ds s i with
    | none => simpa [run, h] using ih hinv hc
    | some s' => simpa [run, h] using ih (step_inv hinv h) (hc.step hinv h)

theorem Done.finished (hdone : Done s) {j : Nat} {p : Phase} (h : s.tasks[j]? = some p) :
    ∃ o, p = .finished o := by
  have := hdone p (List.mem_iff_getElem?.mpr ⟨j, h⟩)
  cases p <;> simp_all [Phase.isFinished]

theorem Claims.holder_done (hc : Claims st ds s) (hdone : Done s) {n : String} {j : Nat}
    (h : (n, j) ∈ s.pipelineNames) : ∃ d r, ds[j]? = some d ∧ d.exception = none ∧
      renderOf st d = .ok r ∧ r.definitionDescriptor.pipelineName = n ∧
      s.tasks[j]? = some (.finished (claimOutcome st d r)) ∧
      (r.renderStatus = .succeeded → (j, r.definitionDescriptor) ∈ s.deployCalls) := by
  obtain ⟨d, r, hd, hx, hr, hn, ht | ⟨ht, hdep⟩⟩ := hc.holder n j h
  · obtain ⟨_, h⟩ := hdone.finished ht
    cases h
  · exact ⟨d, r, hd, hx, hr, hn, ht, hdep⟩

theorem replicate_one_holder_per_name (st : Stages) (ds : List DefinitionDescriptor)
    (sched : List Nat) (hdone : Done (run st ds (init ds) sched)) :
    ((run st ds (init ds) sched).deployCalls.map Prod.fst).Nodup ∧
    (∀ k e, (k, e) ∈ (run st ds (init ds) sched).deployCalls ↔
      ∃ d r, ds[k]? = some d ∧ renderOf st d = .ok r ∧ r.renderStatus = .succeeded ∧
        r.definitionDescriptor = e ∧
        (e.pipelineName, k) ∈ (run st ds (init ds) sched).pipelineNames) ∧
    ∀ i d r, ds[i]? = some d → d.exception = none → renderOf st d = .ok r →
      ∃ j dj rj, ds[j]? = some dj ∧ dj.exception = none ∧ renderOf st dj = .ok rj ∧
        rj.definitionDescriptor.pipelineName = r.definitionDescriptor.pipelineName ∧
        (∀ k, (r.definitionDescriptor.pipelineName, k) ∈
          (run st ds (init ds) sched).pipelineNames ↔ k = j) ∧
        (run st ds (init ds) sched).tasks[j]? = some (.finished (claimOutcome st dj rj)) ∧
        (j ≠ i → (run st ds (init ds) sched).tasks[i]? =
          some (.finished (.ok (duplicateResult d r)))) := by
  have hinv := run_inv (inv_init : Inv st ds (init ds)) sched
  have hc := run_claims (inv_init : Inv st ds (init ds)) claims_init sched
  have hunique : ∀ {n j k}, (n, j) ∈ (run st ds (init ds) sched).pipelineNames →
      (n, k) ∈ (run st ds (init ds) sched).pipelineNames → k = j := fun hj hk =>
    (Prod.mk.inj (List.inj_on_of_nodup_map hinv.names_nodup hk hj rfl)).2
  refine ⟨hinv.deploy_nodup, fun k e => ⟨fun h => ?_, fun ⟨d, r, hd, hr, hs, he, hn⟩ => ?_⟩,
    fun i d r hd hx hr => ?_⟩
  · obtain ⟨d, r, hd, hr, hs, he⟩ := hc.deployed k e h
    exact ⟨d, r, hd, hr, hs, he, (hinv.deploy_holds k e h).1⟩
  · obtain ⟨d', r', hd', -, hr', -, -, hdep⟩ := hc.holder_done hdone hn
    obtain rfl : d' = d := Option.some.inj (hd'.symm.trans hd)
    obtain rfl : r' = r := Except.ok.inj (hr'.symm.trans hr)
    exact he ▸ hdep hs
  · have hi : i < (run st ds (init ds) sched).tasks.length := by
      rw [hinv.length]
      exact (List.getElem?_eq_some_iff.mp hd).1
    obtain ⟨p, hp⟩ : ∃ p, (run st ds (init ds) sched).tasks[i]? = some p :=
      ⟨_, List.getElem?_eq_getElem hi⟩
    obtain ⟨o, rfl⟩ := hdone.finished hp
    rcases hc.settled i d r o hd hr hx hp with hn | ⟨rfl, hn⟩
    · obtain ⟨d', r', hd', -, hr', -, ht, -⟩ := hc.holder_done hdone hn
      obtain rfl : d' = d := Option.some.inj (hd'.symm.trans hd)
      obtain rfl : r' = r := Except.ok.inj (hr'.symm.trans hr)
      exact ⟨i, d', r', hd', hx, hr, rfl, fun k => ⟨fun hk => hunique hn hk, fun h => h ▸ hn⟩,
        ht, fun h => absurd rfl h⟩
    · obtain ⟨⟨n, j⟩, hj, hnj⟩ := List.mem_map.mp hn
      obtain rfl : n = r.definitionDescriptor.pipelineName := hnj
      obtain ⟨dj, rj, hdj, hxj, hrj, hnj, htj, -⟩ := hc.holder_done hdone hj
      exact ⟨j, dj, rj, hdj, hxj, hrj, hnj, fun k => ⟨fun hk => hunique hj hk, fun h => h ▸ hj⟩,
        htj, fun _ => hp⟩

theorem second_twin_holds_name :
    Done (run echoStages twinDescriptors (init twinDescriptors) [0, 1, 1, 1, 0]) ∧
    ((run echoStages twinDescriptors (init twinDescriptors) [0, 1, 1, 1, 0]).deployCalls.map
      Prod.fst).Nodup ∧
    (∀ k e, (k, e) ∈ (run echoStages twinDescriptors (init twinDescriptors)
        [0, 1, 1, 1, 0]).deployCalls ↔
      ∃ d r, twinDescriptors[k]? = some d ∧ renderOf echoStages d = .ok r ∧
        r.renderStatus = .succeeded ∧ r.definitionDescriptor = e ∧
        (e.pipelineName, k) ∈ (run echoStages twinDescriptors (init twinDescriptors)
          [0, 1, 1, 1, 0]).pipelineNames) ∧
    ∀ i d r, twinDescriptors[i]? = some d → d.exception = none →
      renderOf echoStages d = .ok r →
      ∃ j dj rj, twinDescriptors[j]? = some dj ∧ dj.exception = none ∧
        renderOf echoStages dj = .ok rj ∧
        rj.definitionDescriptor.pipelineName = r.definitionDescriptor.pipelineName ∧
        (∀ k, (r.definitionDescriptor.pipelineName, k) ∈ (run echoStages twinDescriptors
          (init twinDescriptors) [0, 1, 1, 1, 0]).pipelineNames ↔ k = j) ∧
        (run echoStages twinDescriptors (init twinDescriptors) [0, 1, 1, 1, 0]).tasks[j]? =
          some (.finished (claimOutcome echoStages dj rj)) ∧
        (j ≠ i → (run echoStages twinDescriptors (init twinDescriptors)
          [0, 1, 1, 1, 0]).tasks[i]? = some (.finished (.ok (duplicateResult d r)))) := by
  have hdone : Done (run echoStages twinDescriptors (init twinDescriptors) [0, 1, 1, 1, 0]) := by
    decide
  exact ⟨hdone, replicate_one_holder_per_name _ _ _ hdone⟩

theorem twin_results_depend_on_schedule :
    collect (run echoStages twinDescriptors (init twinDescriptors) [0, 1, 0, 0, 1]).tasks =
      some (.ok [⟨twinA, .succeeded, none⟩, duplicateResult twinB ⟨twinB, .succeeded, none, none⟩]) ∧
    collect (run echoStages twinDescriptors (init twinDescriptors) [0, 1, 1, 1, 0]).tasks =
      some (.ok [duplicateResult twinA ⟨twinA, .succeeded, none, none⟩, ⟨twinB, .succeeded, none⟩]) ∧
    (run echoStages twinDescriptors (init twinDescriptors) [0, 1, 0, 0, 1]).deployCalls =
      [(0, twinA)] ∧
    (run echoStages twinDescriptors (init twinDescriptors) [0, 1, 1, 1, 0]).deployCalls =
      [(1, twinB)] ∧
    twinA ≠ twinB :=
  ⟨rfl, rfl, rfl, rfl, by decide⟩

end CcUtils.Concourse.Workers
