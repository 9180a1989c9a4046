import GrantProbe.Case.State

/-!
# Running tasks

A task is run against a handler, which answers its requests from a state of the world. This module
says what a run of each construct of a task ends with, so that no later proof opens a task.

* `Task.exec`, `CaseTask.exec`: the end of a run; `Point` is where a run of a case stands;
* `Program.dialogue`: the requests of a run with the answers they got; `CaseTask.dialogue`;
* `Task.endsIn`: the end of a run, as a test that computes;
* `Task.Infallible`: a task that never ends in an error;
* `exec_bind`, `dialogue_bind`: a run of two tasks is a run of the first, then one of the second.
-/

namespace GrantProbe

open Program (Handler)

variable {S : Signature} {σ α β : Type}

/-! ## Requests with their answers -/

/-- A request and the answer it got. -/
structure Exchange (S : Signature) where
  request : S.Request
  answer : S.Answer request

namespace Program

/-- **The dialogue of a run:** its requests with their answers, in order. -/
def dialogue (h : Handler S σ) : Program S α → σ → List (Exchange S)
  | done _, _ => []
  | ask r next, s => ⟨r, (h r s).1⟩ :: (next (h r s).1).dialogue h (h r s).2

@[simp] theorem dialogue_done (h : Handler S σ) (a : α) (s : σ) :
    (done a : Program S α).dialogue h s = [] := rfl

@[simp] theorem dialogue_ask (h : Handler S σ) (r : S.Request) (next : S.Answer r → Program S α)
    (s : σ) :
    (ask r next).dialogue h s = ⟨r, (h r s).1⟩ :: (next (h r s).1).dialogue h (h r s).2 := rfl

theorem dialogue_bind (h : Handler S σ) (p : Program S α) (k : α → Program S β) (s : σ) :
    (p.bind k).dialogue h s =
      p.dialogue h s ++ (k (p.run h s).1).dialogue h (p.run h s).2 := by
  induction p generalizing s with
  | done a => rfl
  | ask r next ih => simp [ih]

theorem map_request_dialogue (h : Handler S σ) (p : Program S α) (s : σ) :
    (p.dialogue h s).map Exchange.request = p.trace h s := by
  induction p generalizing s with
  | done a => rfl
  | ask r next ih => simp [ih]

end Program

/-! ## Tasks -/

namespace Task

/-- **The end of a run** of a task: its outcome, and the world afterwards. -/
def exec (h : Handler S σ) (t : Task S α) (w : σ) : Outcome α × σ := Program.run h t.run w

variable (h : Handler S σ) (w : σ)

@[simp] theorem exec_pure (a : α) : (pure a : Task S α).exec h w = (.ok a, w) := rfl

@[simp] theorem exec_fail (e : Error) : (fail e : Task S α).exec h w = (.error (.error e), w) := rfl

@[simp] theorem exec_abort (p : Panic) : (abort p : Task S α).exec h w = (.error (.panic p), w) :=
  rfl

@[simp] theorem exec_of (p : Program S (Outcome α)) : (of p).exec h w = p.run h w := rfl

theorem exec_always (p : Program S α) :
    (always p).exec h w = (.ok (p.run h w).1, (p.run h w).2) := by
  have hrun : (always p).run = p.bind fun a => .done (.ok a) := rfl
  rw [exec, hrun, Program.run_bind]
  rfl

/-- A run of two tasks is a run of the first, then of the second unless the first stopped short. -/
theorem exec_bind (t : Task S α) (k : α → Task S β) :
    (t >>= k).exec h w =
      match t.exec h w with
      | (.ok a, w') => (k a).exec h w'
      | (.error e, w') => (.error e, w') := by
  have hrun : (t >>= k).run = t.run.bind (ExceptT.bindCont k) := rfl
  rw [exec, hrun, Program.run_bind]
  change ((ExceptT.bindCont k (t.exec h w).1).run h (t.exec h w).2) = _
  rcases t.exec h w with ⟨e | a, w'⟩ <;> rfl

variable {h w} {w' : σ} {t : Task S α}

theorem exec_bind_ok {a : α} (ht : t.exec h w = (.ok a, w')) (k : α → Task S β) :
    (t >>= k).exec h w = (k a).exec h w' := by
  rw [exec_bind, ht]

theorem exec_bind_error {e : Stop} (ht : t.exec h w = (.error e, w')) (k : α → Task S β) :
    (t >>= k).exec h w = (.error e, w') := by
  rw [exec_bind, ht]

theorem exec_bind_eq_ok {k : α → Task S β} {b : β} (hok : (t >>= k).exec h w = (.ok b, w')) :
    ∃ a w₁, t.exec h w = (.ok a, w₁) ∧ (k a).exec h w₁ = (.ok b, w') := by
  rcases ht : t.exec h w with ⟨e | a, w₁⟩
  · rw [exec_bind_error ht] at hok
    cases hok
  · rw [exec_bind_ok ht] at hok
    exact ⟨a, w₁, rfl, hok⟩

theorem exec_bind_eq_error {k : α → Task S β} {e : Stop}
    (herr : (t >>= k).exec h w = (.error e, w')) :
    t.exec h w = (.error e, w') ∨
      ∃ a w₁, t.exec h w = (.ok a, w₁) ∧ (k a).exec h w₁ = (.error e, w') := by
  rcases ht : t.exec h w with ⟨e' | a, w₁⟩
  · rw [exec_bind_error ht] at herr
    cases herr
    exact Or.inl rfl
  · rw [exec_bind_ok ht] at herr
    exact Or.inr ⟨a, w₁, rfl, herr⟩

theorem exec_attempt (h : Handler S σ) (w : σ) (t : Task S α) :
    t.attempt.exec h w =
      match t.exec h w with
      | (.ok a, w') => (.ok (.ok a), w')
      | (.error (.error e), w') => (.ok (.error e), w')
      | (.error (.panic p), w') => (.error (.panic p), w') := by
  unfold attempt exec
  change Program.run h (Program.bind t.run _) w = _
  rw [Program.run_bind]
  rcases Program.run h t.run w with ⟨(e | p) | a, w'⟩ <;> rfl

theorem exec_attempt_ok {a : α} (ht : t.exec h w = (.ok a, w')) :
    t.attempt.exec h w = (.ok (.ok a), w') := by
  rw [exec_attempt, ht]

theorem exec_attempt_error {e : Error} (ht : t.exec h w = (.error (.error e), w')) :
    t.attempt.exec h w = (.ok (.error e), w') := by
  rw [exec_attempt, ht]

theorem exec_attempt_panic {p : Panic} (ht : t.exec h w = (.error (.panic p), w')) :
    t.attempt.exec h w = (.error (.panic p), w') := by
  rw [exec_attempt, ht]

theorem exec_retitle_ok {a : α} (f : Error → Error) (ht : t.exec h w = (.ok a, w')) :
    (t.retitle f).exec h w = (.ok a, w') := by
  unfold exec at ht
  unfold retitle exec
  change Program.run h (Program.bind t.run _) w = _
  rw [Program.run_bind, ht]
  rfl

theorem exec_retitle_error {e : Error} (f : Error → Error)
    (ht : t.exec h w = (.error (.error e), w')) :
    (t.retitle f).exec h w = (.error (.error (f e)), w') := by
  unfold exec at ht
  unfold retitle exec
  change Program.run h (Program.bind t.run _) w = _
  rw [Program.run_bind, ht]
  rfl

theorem exec_retitle (f : Error → Error) (h : Handler S σ) (w : σ) (t : Task S α) :
    (t.retitle f).exec h w =
      match t.exec h w with
      | (.ok a, w') => (.ok a, w')
      | (.error (.error e), w') => (.error (.error (f e)), w')
      | (.error (.panic p), w') => (.error (.panic p), w') := by
  unfold retitle exec
  change Program.run h (Program.bind t.run _) w = _
  rw [Program.run_bind]
  rcases Program.run h t.run w with ⟨(e | p) | a, w'⟩ <;> rfl

/-! ### Runs that are computed -/

/-- The run ends well, and what it ends with passes a test. -/
def endsIn (h : Handler S σ) (w : σ) (t : Task S α) (test : α → σ → Bool) : Bool :=
  match t.exec h w with
  | (.ok a, w') => test a w'
  | (.error _, _) => false

theorem exec_of_endsIn {test : α → σ → Bool} (hends : t.endsIn h w test = true) :
    ∃ a w', t.exec h w = (.ok a, w') ∧ test a w' = true := by
  unfold endsIn at hends
  rcases hrun : t.exec h w with ⟨e | a, w'⟩ <;> rw [hrun] at hends
  · cases hends
  · exact ⟨a, w', rfl, hends⟩

/-! ### Tasks without errors -/

/-- **The task never ends in an error,** though it may end abnormally. -/
def Infallible (t : Task S α) : Prop :=
  ∀ ⦃σ : Type⦄ (h : Handler S σ) (w w' : σ) (e : Error), t.exec h w ≠ (.error (.error e), w')

theorem infallible_pure (a : α) : (pure a : Task S α).Infallible := by
  intro σ h w w' e hfail
  cases hfail

theorem infallible_checkPanic (r : Except Panic α) : (checkPanic r : Task S α).Infallible := by
  intro σ h w w' e hfail
  cases r <;> cases hfail

theorem infallible_always (p : Program S α) : (always p).Infallible := by
  intro σ h w w' e hfail
  rw [exec_always] at hfail
  cases hfail

theorem Infallible.bind {t : Task S α} {k : α → Task S β} (ht : t.Infallible)
    (hk : ∀ a, (k a).Infallible) : (t >>= k).Infallible := by
  intro σ h w w' e hfail
  rcases exec_bind_eq_error hfail with hfirst | ⟨a, w₁, -, hsecond⟩
  · exact ht h w w' e hfirst
  · exact hk a h w₁ w' e hsecond

theorem infallible_attempt (t : Task S α) : t.attempt.Infallible := by
  intro σ h w w' e hfail
  rw [exec_attempt] at hfail
  rcases ht : t.exec h w with ⟨(e' | x) | a, w₁⟩ <;> rw [ht] at hfail <;> cases hfail

end Task

/-! ## Tasks on the state of a case -/

/-- **Where a run of a case stands:** the state of the case and that of the world. -/
structure Point (σ : Type) where
  state : CaseState
  world : σ

namespace CaseTask

/-- **The end of a run** of a task on the state of a case: its outcome, and where it stands. -/
def exec (h : Handler probe σ) (t : CaseTask α) (p : Point σ) : Outcome α × Point σ :=
  let r := Program.run h (t.run p.state) p.world
  (r.1.1, ⟨r.1.2, r.2⟩)

/-- The requests of a run with the answers they got. -/
def dialogue (h : Handler probe σ) (t : CaseTask α) (p : Point σ) : List (Exchange probe) :=
  Program.dialogue h (t.run p.state) p.world

section
variable (h : Handler probe σ) (p : Point σ)

@[simp] theorem exec_pure (a : α) : exec h (pure a) p = (.ok a, p) := rfl

@[simp] theorem exec_fail (e : Error) :
    exec h (fail e : CaseTask α) p = (.error (.error e), p) := rfl

@[simp] theorem exec_get : exec h get p = (.ok p.state, p) := rfl

@[simp] theorem exec_set (s : CaseState) : exec h (set s) p = (.ok ⟨⟩, { p with state := s }) := rfl

@[simp] theorem exec_modify (f : CaseState → CaseState) :
    exec h (modify f) p = (.ok ⟨⟩, { p with state := f p.state }) := rfl

@[simp] theorem exec_check_ok (a : α) : exec h (check (.ok a)) p = (.ok a, p) := rfl

@[simp] theorem exec_check_error (e : Error) :
    exec h (check (.error e : Except Error α)) p = (.error (.error e), p) := rfl

theorem exec_lift (t : Probe α) :
    exec h (lift t) p = ((t.exec h p.world).1, { p with world := (t.exec h p.world).2 }) := by
  have hrun : (lift t).run p.state = Program.bind t.run fun a => .done (a, p.state) := rfl
  unfold exec
  simp only [hrun, Program.run_bind]
  rfl

theorem exec_bind (t : CaseTask α) (k : α → CaseTask β) :
    exec h (t >>= k) p =
      match exec h t p with
      | (.ok a, q) => exec h (k a) q
      | (.error e, q) => (.error e, q) := by
  have hrun : (t >>= k).run p.state =
      Program.bind (t.run p.state) fun r => (ExceptT.bindCont k r.1) r.2 := rfl
  unfold exec
  simp only [hrun, Program.run_bind]
  rcases Program.run h (t.run p.state) p.world with ⟨⟨e | a, s⟩, w⟩ <;> rfl

theorem exec_attempt (t : CaseTask α) :
    exec h t.attempt p =
      match exec h t p with
      | (.ok a, q) => (.ok (.ok a), q)
      | (.error (.error e), q) => (.ok (.error e), q)
      | (.error (.panic x), q) => (.error (.panic x), q) := by
  unfold exec attempt
  simp only [ExceptT.run_mk, Program.run_bind]
  rcases Program.run h (t.run p.state) p.world with ⟨⟨(e | x) | a, s⟩, w⟩ <;> rfl

end

section
variable {h : Handler probe σ} {p q : Point σ} {t : CaseTask α}

theorem exec_bind_ok {a : α} (ht : exec h t p = (.ok a, q)) (k : α → CaseTask β) :
    exec h (t >>= k) p = exec h (k a) q := by
  rw [exec_bind, ht]

theorem exec_bind_error {e : Stop} (ht : exec h t p = (.error e, q)) (k : α → CaseTask β) :
    exec h (t >>= k) p = (.error e, q) := by
  rw [exec_bind, ht]

theorem exec_bind_eq_ok {k : α → CaseTask β} {b : β} (hok : exec h (t >>= k) p = (.ok b, q)) :
    ∃ a r, exec h t p = (.ok a, r) ∧ exec h (k a) r = (.ok b, q) := by
  rcases ht : exec h t p with ⟨e | a, r⟩
  · rw [exec_bind_error ht] at hok
    cases hok
  · rw [exec_bind_ok ht] at hok
    exact ⟨a, r, rfl, hok⟩

theorem exec_lift_ok {t : Probe α} {a : α} {w : σ} (ht : t.exec h p.world = (.ok a, w)) :
    exec h (lift t) p = (.ok a, { p with world := w }) := by
  rw [exec_lift, ht]

theorem exec_lift_error {t : Probe α} {e : Stop} {w : σ} (ht : t.exec h p.world = (.error e, w)) :
    exec h (lift t) p = (.error e, { p with world := w }) := by
  rw [exec_lift, ht]

theorem exec_attempt_ok {a : α} (ht : exec h t p = (.ok a, q)) :
    exec h t.attempt p = (.ok (.ok a), q) := by
  rw [exec_attempt, ht]

theorem exec_attempt_error {e : Error} (ht : exec h t p = (.error (.error e), q)) :
    exec h t.attempt p = (.ok (.error e), q) := by
  rw [exec_attempt, ht]

end

theorem dialogue_bind (h : Handler probe σ) (t : CaseTask α) (k : α → CaseTask β) (p : Point σ) :
    dialogue h (t >>= k) p = dialogue h t p ++
      match exec h t p with
      | (.ok a, q) => dialogue h (k a) q
      | (.error _, _) => [] := by
  have hrun : (t >>= k).run p.state =
      Program.bind (t.run p.state) fun r => (ExceptT.bindCont k r.1) r.2 := rfl
  unfold dialogue exec
  simp only [hrun, Program.dialogue_bind]
  rcases Program.run h (t.run p.state) p.world with ⟨⟨e | a, s⟩, w⟩ <;> rfl

end CaseTask

end GrantProbe
