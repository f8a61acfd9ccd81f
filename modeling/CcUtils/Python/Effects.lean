import CcUtils.Python.Exceptions

namespace CcUtils.Python.Effects

open CcUtils.Python.Exceptions

/-- How a computation ends without a value: a Python exception propagates out of it, or
the fuel that bounds an unbounded recursion of the model runs out. -/
inductive Halt
  | raised (e : PyExc)
  | outOfFuel
  deriving DecidableEq, Repr

section ExceptLemmas

variable {ε α β : Type}

@[simp] theorem except_ok_bind (a : α) (f : α → Except ε β) : (Except.ok a >>= f) = f a := rfl

theorem except_bind_eq_ok {x : Except ε α} {f : α → Except ε β} {b : β} :
    x >>= f = .ok b ↔ ∃ a, x = .ok a ∧ f a = .ok b := by
  cases x <;> simp [bind, Except.bind]

theorem except_map_eq_ok {x : Except ε α} {f : α → β} {b : β} :
    f <$> x = .ok b ↔ ∃ a, x = .ok a ∧ f a = b := by
  cases x <;> simp [Functor.map, Except.map]

end ExceptLemmas

/-- A computation that calls external services (GitHub, a CI backend, a registry): the
calls it made, in order, and how it ended. A computation that raises keeps the calls made
before the exception. -/
structure Trace (σ α : Type) where
  calls : List σ
  result : Except Halt α

namespace Trace

variable {σ α β : Type}

def bind (x : Trace σ α) (f : α → Trace σ β) : Trace σ β :=
  match x.result with
  | .ok a => ⟨x.calls ++ (f a).calls, (f a).result⟩
  | .error h => ⟨x.calls, .error h⟩

instance : Monad (Trace σ) where
  pure a := ⟨[], .ok a⟩
  bind := Trace.bind

def emit (c : σ) : Trace σ Unit := ⟨[c], .ok ()⟩

def raise (e : PyExc) : Trace σ α := ⟨[], .error (.raised e)⟩

def outOfFuel : Trace σ α := ⟨[], .error .outOfFuel⟩

def liftExcept : Except PyExc α → Trace σ α
  | .ok a => pure a
  | .error e => raise e

@[simp] theorem pure_calls (a : α) : (pure a : Trace σ α).calls = [] := rfl

@[simp] theorem pure_result (a : α) : (pure a : Trace σ α).result = .ok a := rfl

@[simp] theorem emit_calls (c : σ) : (emit c).calls = [c] := rfl

@[simp] theorem emit_result (c : σ) : (emit c).result = .ok () := rfl

@[simp] theorem raise_calls (e : PyExc) : (raise e : Trace σ α).calls = [] := rfl

@[simp] theorem raise_result (e : PyExc) : (raise e : Trace σ α).result = .error (.raised e) := rfl

@[simp] theorem outOfFuel_calls : (outOfFuel : Trace σ α).calls = [] := rfl

@[simp] theorem liftExcept_calls (x : Except PyExc α) : (liftExcept x : Trace σ α).calls = [] := by
  cases x <;> rfl

@[simp] theorem liftExcept_ok (a : α) : (liftExcept (.ok a) : Trace σ α) = pure a := rfl

@[simp] theorem liftExcept_error (e : PyExc) : (liftExcept (.error e) : Trace σ α) = raise e := rfl

@[simp] theorem liftExcept_result_ok (x : Except PyExc α) (a : α) :
    (liftExcept x : Trace σ α).result = .ok a ↔ x = .ok a := by
  cases x <;> simp [liftExcept, raise]

def call (c : σ) (x : Except PyExc α) : Trace σ α := emit c >>= fun _ => liftExcept x

@[simp] theorem call_calls (c : σ) (x : Except PyExc α) : (call c x).calls = [c] := by
  cases x <;> rfl

@[simp] theorem call_result (c : σ) (x : Except PyExc α) :
    (call c x).result = x.mapError .raised := by
  cases x <;> rfl

theorem call_result_ok {c : σ} {x : Except PyExc α} {a : α} (h : (call c x).result = .ok a) :
    x = .ok a := by
  rw [call_result] at h
  cases x <;> cases h
  rfl

theorem call_result_error {c : σ} {x : Except PyExc α} {h : Halt}
    (hr : (call c x).result = .error h) : ∃ e, h = .raised e ∧ x = .error e := by
  rw [call_result] at hr
  cases x <;> cases hr
  exact ⟨_, rfl, rfl⟩

def mapCalls {τ : Type} (f : σ → τ) (t : Trace σ α) : Trace τ α := ⟨t.calls.map f, t.result⟩

@[simp] theorem mapCalls_calls {τ : Type} (f : σ → τ) (t : Trace σ α) :
    (t.mapCalls f).calls = t.calls.map f := rfl

@[simp] theorem mapCalls_result {τ : Type} (f : σ → τ) (t : Trace σ α) :
    (t.mapCalls f).result = t.result := rfl

def tryExcept (t : Trace σ α) (c : ExcClass) (handler : α) : Trace σ α :=
  match t.result with
  | .error (.raised e) => if e.isInstance c then ⟨t.calls, .ok handler⟩ else t
  | _ => t

@[simp] theorem tryExcept_calls (t : Trace σ α) (c : ExcClass) (handler : α) :
    (t.tryExcept c handler).calls = t.calls := by
  unfold tryExcept
  split <;> (try split) <;> rfl

theorem tryExcept_of_ok {t : Trace σ α} {a : α} (h : t.result = .ok a) (c : ExcClass)
    (handler : α) : t.tryExcept c handler = t := by
  simp [tryExcept, h]

theorem tryExcept_result_ok {t : Trace σ α} {c : ExcClass} {handler a : α}
    (h : (t.tryExcept c handler).result = .ok a) : t.result = .ok a ∨ a = handler := by
  unfold tryExcept at h
  split at h
  · split at h
    · exact .inr (Except.ok.inj h).symm
    · exact .inl h
  · exact .inl h

theorem tryExcept_result_error {t : Trace σ α} {c : ExcClass} {handler : α} {x : Halt} :
    (t.tryExcept c handler).result = .error x ↔
      t.result = .error x ∧ ∀ e, x = .raised e → e.isInstance c = false := by
  unfold tryExcept
  constructor
  · intro hr
    split at hr
    · next e he =>
      split at hr
      · cases hr
      · next hc =>
        refine ⟨hr, fun e' hx => ?_⟩
        rw [hr, hx] at he
        cases he
        simpa using hc
    · next hne => exact ⟨hr, fun e hx => (hne e (hx ▸ hr)).elim⟩
  · rintro ⟨hr, hc⟩
    split
    · next e he =>
      rw [hr] at he
      cases he
      rw [if_neg (by simp [hc e rfl])]
      exact hr
    · exact hr

def mapResult (f : α → β) (t : Trace σ α) : Trace σ β := ⟨t.calls, t.result.map f⟩

theorem tryExcept_mapResult (f : α → β) (t : Trace σ α) (c : ExcClass) (handler : α) :
    (t.mapResult f).tryExcept c (f handler) = (t.tryExcept c handler).mapResult f := by
  rcases t with ⟨calls, (e | _) | a⟩
  · simp only [tryExcept, mapResult, Except.map]
    split <;> rfl
  all_goals rfl

def tryExceptAs (t : Trace σ α) (c : ExcClass) (handler : PyExc → α) : Trace σ α :=
  match t.result with
  | .error (.raised e) => if e.isInstance c then ⟨t.calls, .ok (handler e)⟩ else t
  | _ => t

@[simp] theorem tryExceptAs_calls (t : Trace σ α) (c : ExcClass) (handler : PyExc → α) :
    (t.tryExceptAs c handler).calls = t.calls := by
  unfold tryExceptAs
  split <;> (try split) <;> rfl

theorem tryExceptAs_of_ok {t : Trace σ α} {a : α} (h : t.result = .ok a) (c : ExcClass)
    (handler : PyExc → α) : (t.tryExceptAs c handler).result = .ok a := by
  simp [tryExceptAs, h]

theorem tryExceptAs_of_raised {t : Trace σ α} {e : PyExc} (h : t.result = .error (.raised e))
    (c : ExcClass) (handler : PyExc → α) : (t.tryExceptAs c handler).result =
      if e.isInstance c then .ok (handler e) else .error (.raised e) := by
  simp only [tryExceptAs, h]
  split <;> simp_all

theorem bind_of_ok {x : Trace σ α} {a : α} (h : x.result = .ok a) (f : α → Trace σ β) :
    x >>= f = ⟨x.calls ++ (f a).calls, (f a).result⟩ := by
  show Trace.bind x f = _
  simp [Trace.bind, h]

theorem bind_of_error {x : Trace σ α} {e : Halt} (h : x.result = .error e) (f : α → Trace σ β) :
    x >>= f = ⟨x.calls, .error e⟩ := by
  show Trace.bind x f = _
  simp [Trace.bind, h]

@[simp] theorem pure_bind (a : α) (f : α → Trace σ β) : pure a >>= f = f a :=
  bind_of_ok (pure_result a) f

@[simp] theorem mk_ok_bind (calls : List σ) (a : α) (f : α → Trace σ β) :
    (⟨calls, .ok a⟩ : Trace σ α) >>= f = ⟨calls ++ (f a).calls, (f a).result⟩ :=
  bind_of_ok rfl f

@[simp] theorem emit_bind (c : σ) (f : Unit → Trace σ β) :
    emit c >>= f = ⟨c :: (f ()).calls, (f ()).result⟩ :=
  bind_of_ok (emit_result c) f

@[simp] theorem raise_bind (e : PyExc) (f : α → Trace σ β) : (raise e : Trace σ α) >>= f = raise e :=
  rfl

theorem mem_bind_calls {x : Trace σ α} {f : α → Trace σ β} {c : σ} (h : c ∈ (x >>= f).calls) :
    c ∈ x.calls ∨ ∃ a, x.result = .ok a ∧ c ∈ (f a).calls := by
  cases hx : x.result with
  | ok a =>
    rw [bind_of_ok hx] at h
    exact (List.mem_append.mp h).imp_right fun hc => ⟨a, rfl, hc⟩
  | error e =>
    rw [bind_of_error hx] at h
    exact .inl h

theorem bind_result_ok {x : Trace σ α} {f : α → Trace σ β} {b : β} :
    (x >>= f).result = .ok b ↔ ∃ a, x.result = .ok a ∧ (f a).result = .ok b := by
  cases hx : x.result with
  | ok a => simp [bind_of_ok hx]
  | error e => simp [bind_of_error hx]

theorem bind_result_error {x : Trace σ α} {f : α → Trace σ β} {h : Halt}
    (hr : (x >>= f).result = .error h) :
    x.result = .error h ∨ ∃ a, x.result = .ok a ∧ (f a).result = .error h := by
  cases hx : x.result with
  | ok a => exact .inr ⟨a, rfl, by rwa [bind_of_ok hx] at hr⟩
  | error e => rw [bind_of_error hx] at hr; exact .inl (by simpa using hr)

theorem mem_bind_calls_left {x : Trace σ α} {f : α → Trace σ β} {c : σ} (hc : c ∈ x.calls) :
    c ∈ (x >>= f).calls := by
  cases hx : x.result with
  | ok a => rw [bind_of_ok hx]; exact List.mem_append_left _ hc
  | error e => rwa [bind_of_error hx]

theorem mem_bind_calls_right {x : Trace σ α} {f : α → Trace σ β} {a : α} {c : σ}
    (hx : x.result = .ok a) (hc : c ∈ (f a).calls) : c ∈ (x >>= f).calls := by
  rw [bind_of_ok hx]
  exact List.mem_append_right _ hc

section ForM

variable {f : α → Trace σ PUnit}

theorem forM_result_ok {l : List α} : (l.forM f).result = .ok ⟨⟩ ↔ ∀ x ∈ l, (f x).result = .ok ⟨⟩ := by
  induction l with
  | nil => simp
  | cons x l ih =>
    rw [List.forM_cons', bind_result_ok, List.forall_mem_cons, ← ih]
    constructor
    · rintro ⟨⟨⟩, hx, hl⟩
      exact ⟨hx, hl⟩
    · rintro ⟨hx, hl⟩
      exact ⟨_, hx, hl⟩

theorem forM_result_error {l : List α} {h : Halt} (hr : (l.forM f).result = .error h) :
    ∃ x ∈ l, (f x).result = .error h := by
  induction l with
  | nil => simp at hr
  | cons x l ih =>
    rw [List.forM_cons'] at hr
    rcases bind_result_error hr with hx | ⟨_, -, hl⟩
    · exact ⟨x, List.mem_cons_self _ _, hx⟩
    · obtain ⟨y, hy, hfy⟩ := ih hl
      exact ⟨y, List.mem_cons_of_mem _ hy, hfy⟩

theorem mem_forM_calls {l : List α} {x : α} {c : σ} (hr : (l.forM f).result = .ok ⟨⟩)
    (hx : x ∈ l) (hc : c ∈ (f x).calls) : c ∈ (l.forM f).calls := by
  induction l with
  | nil => simp at hx
  | cons y l ih =>
    rw [List.forM_cons'] at hr ⊢
    obtain ⟨⟨⟩, hy, hl⟩ := bind_result_ok.mp hr
    rcases List.mem_cons.mp hx with rfl | hx
    · exact mem_bind_calls_left hc
    · exact mem_bind_calls_right hy (ih hl hx)

end ForM

def Emits (P : σ → Prop) (t : Trace σ α) : Prop := ∀ c ∈ t.calls, P c

variable {P : σ → Prop}

theorem Emits.pure (a : α) : Emits P (Pure.pure a : Trace σ α) := fun _ h => by simp at h

theorem Emits.emit {c : σ} (h : P c) : Emits P (Trace.emit c) := fun _ hc => by
  rw [emit_calls, List.mem_singleton] at hc
  exact hc ▸ h

theorem Emits.liftExcept (x : Except PyExc α) : Emits P (Trace.liftExcept x : Trace σ α) :=
  fun _ h => by simp at h

theorem Emits.raise (e : PyExc) : Emits P (Trace.raise e : Trace σ α) := fun _ h => by simp at h

theorem Emits.outOfFuel : Emits P (Trace.outOfFuel : Trace σ α) := fun _ h => by simp at h

theorem Emits.bind {x : Trace σ α} {f : α → Trace σ β} (hx : Emits P x)
    (hf : ∀ a, x.result = .ok a → Emits P (f a)) : Emits P (x >>= f) := fun c h => by
  rcases mem_bind_calls h with hc | ⟨a, ha, hc⟩
  · exact hx c hc
  · exact hf a ha c hc

theorem Emits.emit_bind {c : σ} {f : Unit → Trace σ β} (h : P c) (hf : Emits P (f ())) :
    Emits P (Trace.emit c >>= f) :=
  Emits.bind (Emits.emit h) fun _ _ => hf

theorem Emits.mono {Q : σ → Prop} {t : Trace σ α} (h : Emits P t) (hPQ : ∀ c, P c → Q c) :
    Emits Q t := fun c hc => hPQ c (h c hc)

theorem Emits.forM {l : List α} {f : α → Trace σ PUnit} (h : ∀ x ∈ l, Emits P (f x)) :
    Emits P (l.forM f) := by
  induction l with
  | nil => exact Emits.pure _
  | cons x l ih =>
    rw [List.forM_cons']
    exact Emits.bind (h x (List.mem_cons_self _ _)) fun _ _ =>
      ih fun y hy => h y (List.mem_cons_of_mem _ hy)

def Raises (t : Trace σ α) : Prop := t.result ≠ .error .outOfFuel

theorem Raises.pure (a : α) : Raises (Pure.pure a : Trace σ α) := by simp [Raises]

theorem Raises.emit (c : σ) : Raises (Trace.emit c) := by simp [Raises]

theorem Raises.raise (e : PyExc) : Raises (Trace.raise e : Trace σ α) := by simp [Raises, Trace.raise]

theorem Raises.liftExcept (x : Except PyExc α) : Raises (Trace.liftExcept x : Trace σ α) := by
  cases x <;> simp [Raises, Trace.liftExcept, Trace.raise]

theorem Raises.bind {x : Trace σ α} {f : α → Trace σ β} (hx : Raises x)
    (hf : ∀ a, x.result = .ok a → Raises (f a)) : Raises (x >>= f) := by
  cases h : x.result with
  | ok a => rw [Raises, bind_of_ok h]; exact hf a h
  | error e =>
    rw [Raises, bind_of_error h]
    rintro ⟨⟩
    exact hx h

theorem Raises.call (c : σ) (x : Except PyExc α) : Raises (Trace.call c x) :=
  Raises.bind (Raises.emit c) fun _ _ => Raises.liftExcept x

theorem Raises.raised {t : Trace σ α} {h : Halt} (ht : Raises t) (hr : t.result = .error h) :
    ∃ e, h = .raised e := by
  cases h with
  | raised e => exact ⟨e, rfl⟩
  | outOfFuel => exact absurd hr ht

theorem Raises.bind_raised {x : Trace σ α} {f : α → Trace σ β} (hx : Raises x)
    (hf : ∀ a, x.result = .ok a → ∃ e, (f a).result = .error (.raised e)) :
    ∃ e, (x >>= f).result = .error (.raised e) := by
  cases h : x.result with
  | ok a => rw [bind_of_ok h]; exact hf a h
  | error e =>
    obtain ⟨e, rfl⟩ := hx.raised h
    exact ⟨e, by rw [bind_of_error h]⟩

/-- `for a in g: if p(a): return a` over a generator `g`: a computation whose calls are the
values it yields, and that makes no request of its own. -/
def firstYield (g : Trace α Unit) (p : α → Bool) : Trace σ (Option α) :=
  match g.calls.find? p with
  | some a => pure (some a)
  | none => ⟨[], g.result.map fun _ => none⟩

/-- `for a in g: body(a)` over a generator `g`: the body runs on each value before the next one
is produced, and what ends the generator ends the loop. -/
def forYields (g : Trace α Unit) (body : α → Trace σ Unit) : Trace σ Unit :=
  g.calls.forM body >>= fun _ => ⟨[], g.result⟩

@[simp] theorem firstYield_raise (e : PyExc) (p : α → Bool) :
    (firstYield (raise e) p : Trace σ (Option α)) = raise e := rfl

@[simp] theorem forYields_raise (e : PyExc) (body : α → Trace σ Unit) :
    forYields (raise e) body = raise e := rfl

end Trace

def Halt.toPyExc : Halt → PyExc
  | .raised e => e
  | .outOfFuel => ⟨.recursionError, "maximum recursion depth exceeded"⟩

end CcUtils.Python.Effects
