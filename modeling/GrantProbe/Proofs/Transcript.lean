import GrantProbe.Proofs.Execution
import GrantProbe.Suite.Run

/-!
# What a run asks

Two ways to say what a task asks of the world. A *transcript* is about one run: its requests, in
order, with the answers they got. The other is about the task itself: `Asks P` says that none of its
runs can make a request outside `P`, whatever the world answers.

* `Task.trace`, `Task.dialogue`: the requests of a run of a task, without and with the answers;
* `Task.Runs`: a run as its requests and its end, with `Runs.bind_ok` and its like; `Task.Talks`: the
  same with the answers;
* `CaseTask.Runs`: the same of a task on the state of a case, with the answers;
* `Program.Asks`, `Task.Asks`, `CaseTask.Asks`: the requests that a task can make, with a lemma for
  each way to build one; `Asks.of_mem_dialogue`: a run makes no other.
-/

namespace GrantProbe

open Program (Handler)

variable {S : Signature} {σ α β : Type}

namespace Program

/-- **The requests of a program** all satisfy `P`, in every one of its runs. -/
def Asks (P : S.Request → Prop) : Program S α → Prop
  | done _ => True
  | ask r next => P r ∧ ∀ x, (next x).Asks P

variable {P Q : S.Request → Prop}

theorem Asks.bind {p : Program S α} {k : α → Program S β} (hp : p.Asks P)
    (hk : ∀ a, (k a).Asks P) : (p.bind k).Asks P := by
  induction p with
  | done a => exact hk a
  | ask r next ih => exact ⟨hp.1, fun x => ih x (hp.2 x)⟩

theorem Asks.mono {p : Program S α} (hp : p.Asks P) (hPQ : ∀ r, P r → Q r) : p.Asks Q := by
  induction p with
  | done a => trivial
  | ask r next ih => exact ⟨hPQ r hp.1, fun x => ih x (hp.2 x)⟩

theorem Asks.of_mem_dialogue {p : Program S α} (hp : p.Asks P) {h : Handler S σ} {w : σ}
    {x : Exchange S} (hx : x ∈ p.dialogue h w) : P x.request := by
  induction p generalizing w with
  | done a => exact absurd hx List.not_mem_nil
  | ask r next ih =>
    rcases List.mem_cons.mp hx with rfl | hx
    · exact hp.1
    · exact ih _ (hp.2 _) hx

end Program

/-! ## Tasks -/

namespace Task

/-- **The requests of a run** of a task, in order. -/
def trace (h : Handler S σ) (t : Task S α) (w : σ) : List S.Request := Program.trace h t.run w

/-- The requests of a run with the answers they got. -/
def dialogue (h : Handler S σ) (t : Task S α) (w : σ) : List (Exchange S) :=
  Program.dialogue h t.run w

theorem map_request_dialogue (h : Handler S σ) (t : Task S α) (w : σ) :
    (t.dialogue h w).map Exchange.request = t.trace h w :=
  Program.map_request_dialogue h t.run w

section
variable (h : Handler S σ) (w : σ)

theorem dialogue_bind (t : Task S α) (k : α → Task S β) :
    (t >>= k).dialogue h w = t.dialogue h w ++
      match t.exec h w with
      | (.ok a, w') => (k a).dialogue h w'
      | (.error _, _) => [] := by
  have hrun : (t >>= k).run = t.run.bind (ExceptT.bindCont k) := rfl
  unfold dialogue exec
  rw [hrun, Program.dialogue_bind]
  rcases Program.run h t.run w with ⟨e | a, w'⟩ <;> rfl

theorem trace_bind (t : Task S α) (k : α → Task S β) :
    (t >>= k).trace h w = t.trace h w ++
      match t.exec h w with
      | (.ok a, w') => (k a).trace h w'
      | (.error _, _) => [] := by
  rw [← map_request_dialogue, dialogue_bind, List.map_append, map_request_dialogue]
  rcases t.exec h w with ⟨e | a, w'⟩
  · rfl
  · simp only [map_request_dialogue]

theorem dialogue_attempt (t : Task S α) : t.attempt.dialogue h w = t.dialogue h w := by
  unfold attempt dialogue
  simp only [ExceptT.run_mk, Program.dialogue_bind]
  rcases Program.run h t.run w with ⟨(e | p) | a, w'⟩ <;> exact List.append_nil _

theorem dialogue_retitle (f : Error → Error) (t : Task S α) :
    (t.retitle f).dialogue h w = t.dialogue h w := by
  unfold retitle dialogue
  simp only [ExceptT.run_mk, Program.dialogue_bind]
  rcases Program.run h t.run w with ⟨(e | p) | a, w'⟩ <;> exact List.append_nil _

theorem trace_attempt (t : Task S α) : t.attempt.trace h w = t.trace h w := by
  rw [← map_request_dialogue, dialogue_attempt, map_request_dialogue]

theorem trace_retitle (f : Error → Error) (t : Task S α) : (t.retitle f).trace h w = t.trace h w := by
  rw [← map_request_dialogue, dialogue_retitle, map_request_dialogue]

variable {h w} {w' : σ} {t : Task S α}

theorem dialogue_bind_ok {a : α} (ht : t.exec h w = (.ok a, w')) (k : α → Task S β) :
    (t >>= k).dialogue h w = t.dialogue h w ++ (k a).dialogue h w' := by
  rw [dialogue_bind, ht]

theorem dialogue_bind_error {e : Stop} (ht : t.exec h w = (.error e, w')) (k : α → Task S β) :
    (t >>= k).dialogue h w = t.dialogue h w := by
  rw [dialogue_bind, ht]
  exact List.append_nil _

end

/-! ### Runs with their requests -/

/-- **A run with its requests:** from `w` the task makes the requests `asked` and ends with `o` in
`w'`. -/
structure Runs (h : Handler S σ) (t : Task S α) (w : σ) (asked : List S.Request) (o : Outcome α)
    (w' : σ) : Prop where
  exec : t.exec h w = (o, w')
  trace : t.trace h w = asked

section
variable {h : Handler S σ} {w w₁ w₂ : σ} {t : Task S α} {k : α → Task S β}
  {asked more : List S.Request}

theorem runs_pure (a : α) : (pure a : Task S α).Runs h w [] (.ok a) w := ⟨rfl, rfl⟩

theorem runs_fail (e : Error) : (fail e : Task S α).Runs h w [] (.error (.error e)) w := ⟨rfl, rfl⟩

theorem Runs.bind_ok {a : α} {o : Outcome β} (ht : t.Runs h w asked (.ok a) w₁)
    (hk : (k a).Runs h w₁ more o w₂) : (t >>= k).Runs h w (asked ++ more) o w₂ := by
  refine ⟨(exec_bind_ok ht.exec k).trans hk.exec, ?_⟩
  rw [trace_bind, ht.exec, ht.trace]
  simp only [hk.trace]

theorem Runs.bind_error {e : Stop} (ht : t.Runs h w asked (.error e) w₁) :
    (t >>= k).Runs h w asked (.error e) w₁ := by
  refine ⟨exec_bind_error ht.exec k, ?_⟩
  rw [trace_bind, ht.exec, ht.trace]
  exact List.append_nil _

theorem Runs.attempt_ok {a : α} (ht : t.Runs h w asked (.ok a) w₁) :
    t.attempt.Runs h w asked (.ok (.ok a)) w₁ :=
  ⟨exec_attempt_ok ht.exec, (trace_attempt h w t).trans ht.trace⟩

theorem Runs.attempt_error {e : Error} (ht : t.Runs h w asked (.error (.error e)) w₁) :
    t.attempt.Runs h w asked (.ok (.error e)) w₁ :=
  ⟨exec_attempt_error ht.exec, (trace_attempt h w t).trans ht.trace⟩

theorem Runs.retitle_ok {a : α} (ht : t.Runs h w asked (.ok a) w₁) (f : Error → Error) :
    (t.retitle f).Runs h w asked (.ok a) w₁ :=
  ⟨exec_retitle_ok f ht.exec, (trace_retitle h w f t).trans ht.trace⟩

theorem Runs.retitle_error {e : Error} (ht : t.Runs h w asked (.error (.error e)) w₁)
    (f : Error → Error) : (t.retitle f).Runs h w asked (.error (.error (f e))) w₁ :=
  ⟨exec_retitle_error f ht.exec, (trace_retitle h w f t).trans ht.trace⟩

end

/-! ### Runs with their dialogues -/

/-- **A run with its dialogue:** from `w` the task has the dialogue `D` and ends with `o` in `w'`. -/
structure Talks (h : Handler S σ) (t : Task S α) (w : σ) (D : List (Exchange S)) (o : Outcome α)
    (w' : σ) : Prop where
  exec : t.exec h w = (o, w')
  dialogue : t.dialogue h w = D

section
variable {h : Handler S σ} {w w₁ w₂ : σ} {t : Task S α} {k : α → Task S β}
  {D E : List (Exchange S)}

theorem talks_pure (a : α) : (pure a : Task S α).Talks h w [] (.ok a) w := ⟨rfl, rfl⟩

theorem talks_fail (e : Error) : (fail e : Task S α).Talks h w [] (.error (.error e)) w := ⟨rfl, rfl⟩

theorem Talks.bind_ok {a : α} {o : Outcome β} (ht : t.Talks h w D (.ok a) w₁)
    (hk : (k a).Talks h w₁ E o w₂) : (t >>= k).Talks h w (D ++ E) o w₂ :=
  ⟨(exec_bind_ok ht.exec k).trans hk.exec, by
    rw [dialogue_bind_ok ht.exec, ht.dialogue, hk.dialogue]⟩

theorem Talks.bind_silent {a : α} {o : Outcome β} (ht : t.Talks h w D (.ok a) w₁)
    (hk : (k a).Talks h w₁ [] o w₂) : (t >>= k).Talks h w D o w₂ := by
  have htalks := ht.bind_ok hk
  rw [List.append_nil] at htalks
  exact htalks

theorem Talks.map {a : α} (ht : t.Talks h w D (.ok a) w₁) (f : α → β) :
    (t >>= fun a => pure (f a)).Talks h w D (.ok (f a)) w₁ := ht.bind_silent (talks_pure (f a))

theorem Talks.bind_error {e : Stop} (ht : t.Talks h w D (.error e) w₁) (k : α → Task S β) :
    (t >>= k).Talks h w D (.error e) w₁ :=
  ⟨exec_bind_error ht.exec k, (dialogue_bind_error ht.exec k).trans ht.dialogue⟩

theorem Talks.attempt_ok {a : α} (ht : t.Talks h w D (.ok a) w₁) :
    t.attempt.Talks h w D (.ok (.ok a)) w₁ :=
  ⟨exec_attempt_ok ht.exec, (dialogue_attempt h w t).trans ht.dialogue⟩

theorem Talks.attempt_error {e : Error} (ht : t.Talks h w D (.error (.error e)) w₁) :
    t.attempt.Talks h w D (.ok (.error e)) w₁ :=
  ⟨exec_attempt_error ht.exec, (dialogue_attempt h w t).trans ht.dialogue⟩

end

/-! ### What a task can ask -/

/-- **The requests of a task** all satisfy `P`, in every one of its runs. -/
def Asks (P : S.Request → Prop) (t : Task S α) : Prop := Program.Asks P t.run

section
variable {P Q : S.Request → Prop} {t : Task S α}

theorem asks_pure (a : α) : Asks P (pure a : Task S α) := trivial

theorem asks_stop (e : Stop) : Asks P (throw e : Task S α) := trivial

theorem asks_checkPanic (r : Except Panic α) : Asks P (checkPanic r : Task S α) := by
  cases r <;> trivial

theorem Asks.bind {k : α → Task S β} (ht : Asks P t) (hk : ∀ a, Asks P (k a)) :
    Asks P (t >>= k) := by
  refine Program.Asks.bind ht fun r => ?_
  rcases r with e | a
  · trivial
  · exact hk a

theorem Asks.attempt (ht : Asks P t) : Asks P t.attempt := by
  refine Program.Asks.bind ht fun r => ?_
  rcases r with (e | p) | a <;> trivial

theorem Asks.retitle (ht : Asks P t) (f : Error → Error) : Asks P (t.retitle f) := by
  refine Program.Asks.bind ht fun r => ?_
  rcases r with (e | p) | a <;> trivial

theorem Asks.mono (ht : Asks P t) (hPQ : ∀ r, P r → Q r) : Asks Q t := Program.Asks.mono ht hPQ

theorem Asks.of_mem_dialogue (ht : Asks P t) {h : Handler S σ} {w : σ} {x : Exchange S}
    (hx : x ∈ t.dialogue h w) : P x.request := Program.Asks.of_mem_dialogue ht hx

end

end Task

section
variable {P : Ask → Prop}

theorem asks_access {c : AccessCall} (hc : P (.access c)) : Task.Asks P (Probe.access c) :=
  ⟨hc, fun _ => trivial⟩

theorem asks_identity {c : IdentityCall} (hc : P (.identity c)) :
    Task.Asks P (Probe.identity c) := ⟨hc, fun _ => trivial⟩

theorem asks_tracking {client : Client} {c : TrackingCall} (hc : P (.tracking client c)) :
    Task.Asks P (Probe.tracking client c) := ⟨hc, fun _ => trivial⟩

theorem asks_probeBind {client : Client} (hc : P (.bind client)) :
    Task.Asks P (Probe.bind client) := ⟨hc, fun _ => trivial⟩

theorem asks_sleep {d : Duration} (hd : P (.sleep d)) : Task.Asks P (Probe.sleep d) :=
  ⟨hd, fun _ => trivial⟩

theorem asks_suffix (hs : P .suffix) : Task.Asks P Probe.suffix := ⟨hs, fun _ => trivial⟩

end

/-! ## Tasks on the state of a case -/

namespace CaseTask

/-- **The requests of a task** on the state of a case all satisfy `P`, in every one of its runs. -/
def Asks (P : Ask → Prop) (t : CaseTask α) : Prop := ∀ s, Program.Asks P (t.run s)

variable {P Q : Ask → Prop} {t : CaseTask α}

theorem asks_pure (a : α) : Asks P (pure a) := fun _ => trivial

theorem asks_check (r : Except Error α) : Asks P (check r) := by
  cases r <;> exact fun _ => trivial

theorem asks_get : Asks P get := fun _ => trivial

theorem asks_set (s : CaseState) : Asks P (set s) := fun _ => trivial

theorem asks_modify (f : CaseState → CaseState) : Asks P (modify f) := fun _ => trivial

theorem asks_lift {t : Probe α} (ht : t.Asks P) : Asks P (lift t) :=
  fun _ => Program.Asks.bind ht fun _ => trivial

theorem Asks.bind {k : α → CaseTask β} (ht : Asks P t) (hk : ∀ a, Asks P (k a)) :
    Asks P (t >>= k) := by
  refine fun s => Program.Asks.bind (ht s) fun r => ?_
  rcases r with ⟨e | a, s'⟩
  · trivial
  · exact hk a s'

theorem Asks.attempt (ht : Asks P t) : Asks P t.attempt := by
  refine fun s => Program.Asks.bind (ht s) fun r => ?_
  rcases r with ⟨(e | p) | a, s'⟩ <;> trivial

theorem Asks.mono (ht : Asks P t) (hPQ : ∀ r, P r → Q r) : Asks Q t :=
  fun s => Program.Asks.mono (ht s) hPQ

theorem Asks.of_mem_dialogue (ht : Asks P t) {h : Handler probe σ} {p : Point σ}
    {x : Exchange probe} (hx : x ∈ dialogue h t p) : P x.request :=
  Program.Asks.of_mem_dialogue (ht p.state) hx

/-! ### Dialogues of the parts of a task -/

section
variable (h : Handler probe σ) (p : Point σ)

@[simp] theorem dialogue_pure (a : α) : dialogue h (pure a) p = [] := rfl

@[simp] theorem dialogue_get : dialogue h get p = [] := rfl

@[simp] theorem dialogue_set (s : CaseState) : dialogue h (set s) p = [] := rfl

@[simp] theorem dialogue_modify (f : CaseState → CaseState) : dialogue h (modify f) p = [] := rfl

@[simp] theorem dialogue_check (r : Except Error α) : dialogue h (check r) p = [] := by
  cases r <;> rfl

theorem dialogue_lift (t : Probe α) : dialogue h (lift t) p = t.dialogue h p.world := by
  have hrun : (lift t).run p.state = Program.bind t.run fun a => .done (a, p.state) := rfl
  unfold dialogue Task.dialogue
  rw [hrun, Program.dialogue_bind]
  exact List.append_nil _

theorem dialogue_attempt (t : CaseTask α) : dialogue h t.attempt p = dialogue h t p := by
  unfold dialogue attempt
  simp only [ExceptT.run_mk, Program.dialogue_bind]
  rcases Program.run h (t.run p.state) p.world with ⟨⟨(e | x) | a, s⟩, w⟩ <;>
    exact List.append_nil _

variable {h p} {q : Point σ}

theorem dialogue_bind_ok {a : α} (ht : exec h t p = (.ok a, q)) (k : α → CaseTask β) :
    dialogue h (t >>= k) p = dialogue h t p ++ dialogue h (k a) q := by
  rw [dialogue_bind, ht]

theorem dialogue_bind_error {e : Stop} (ht : exec h t p = (.error e, q)) (k : α → CaseTask β) :
    dialogue h (t >>= k) p = dialogue h t p := by
  rw [dialogue_bind, ht]
  exact List.append_nil _

end

/-! ### Runs with their dialogues -/

/-- **A run with its dialogue:** from `p` the task has the dialogue `D` and ends with `o` at `q`. -/
structure Runs (h : Handler probe σ) (t : CaseTask α) (p : Point σ) (D : List (Exchange probe))
    (o : Outcome α) (q : Point σ) : Prop where
  exec : exec h t p = (o, q)
  dialogue : dialogue h t p = D

section
variable {h : Handler probe σ} {p q r : Point σ} {k : α → CaseTask β} {D E : List (Exchange probe)}

theorem runs_self (h : Handler probe σ) (t : CaseTask α) (p : Point σ) :
    t.Runs h p (CaseTask.dialogue h t p) (CaseTask.exec h t p).1 (CaseTask.exec h t p).2 :=
  ⟨rfl, rfl⟩

theorem runs_pure (a : α) : (pure a : CaseTask α).Runs h p [] (.ok a) p := ⟨rfl, rfl⟩

theorem Runs.bind_ok {a : α} {o : Outcome β} (ht : t.Runs h p D (.ok a) q)
    (hk : (k a).Runs h q E o r) : (t >>= k).Runs h p (D ++ E) o r :=
  ⟨(exec_bind_ok ht.exec k).trans hk.exec, by
    rw [dialogue_bind_ok ht.exec, ht.dialogue, hk.dialogue]⟩

theorem Runs.bind_error {e : Stop} (ht : t.Runs h p D (.error e) q) :
    (t >>= k).Runs h p D (.error e) q :=
  ⟨exec_bind_error ht.exec k, (dialogue_bind_error ht.exec k).trans ht.dialogue⟩

theorem Runs.bind_silent {a : α} {o : Outcome β} (ht : t.Runs h p D (.ok a) q)
    (hk : (k a).Runs h q [] o r) : (t >>= k).Runs h p D o r := by
  have hrun := ht.bind_ok hk
  rw [List.append_nil] at hrun
  exact hrun

theorem Runs.rest {a : α} {o : Outcome β} (hrun : (t >>= k).Runs h p D o q)
    (ht : t.Runs h p E (.ok a) r) : ∃ D', D = E ++ D' ∧ (k a).Runs h r D' o q := by
  obtain ⟨hexec, rfl⟩ := hrun
  rw [exec_bind_ok ht.exec] at hexec
  exact ⟨_, by rw [dialogue_bind_ok ht.exec, ht.dialogue], hexec, rfl⟩

theorem runs_bind_ok_iff {b : β} : (t >>= k).Runs h p D (.ok b) r ↔
    ∃ a D₁ q D₂, t.Runs h p D₁ (.ok a) q ∧ (k a).Runs h q D₂ (.ok b) r ∧ D = D₁ ++ D₂ := by
  constructor
  · rintro ⟨hexec, rfl⟩
    obtain ⟨a, q, ht, hk⟩ := exec_bind_eq_ok hexec
    exact ⟨a, _, q, _, ⟨ht, rfl⟩, ⟨hk, rfl⟩, dialogue_bind_ok ht k⟩
  · rintro ⟨a, D₁, q, D₂, ht, hk, rfl⟩
    exact ht.bind_ok hk

theorem runs_bind_error_iff {e : Stop} : (t >>= k).Runs h p D (.error e) r ↔
    t.Runs h p D (.error e) r ∨
      ∃ a D₁ q D₂, t.Runs h p D₁ (.ok a) q ∧ (k a).Runs h q D₂ (.error e) r ∧ D = D₁ ++ D₂ := by
  constructor
  · rintro ⟨hexec, rfl⟩
    rcases ht : CaseTask.exec h t p with ⟨e' | a, q⟩
    · rw [exec_bind_error ht] at hexec
      cases hexec
      exact Or.inl ⟨ht, (dialogue_bind_error ht k).symm⟩
    · rw [exec_bind_ok ht] at hexec
      exact Or.inr ⟨a, _, q, _, ⟨ht, rfl⟩, ⟨hexec, rfl⟩, dialogue_bind_ok ht k⟩
  · rintro (ht | ⟨a, D₁, q, D₂, ht, hk, rfl⟩)
    · exact ht.bind_error
    · exact ht.bind_ok hk

end

end CaseTask

/-! ## Running a task on its own -/

/-- **Where a case begins.** -/
def Fixture.opening (fx : Fixture) (w : σ) : Point σ := ⟨.fresh fx.setting.scopes, w⟩

section
variable (h : Handler probe σ) (t : CaseTask α)

theorem exec_caught (p : Point σ) :
    CaseTask.exec h (caught t) p = (.ok (CaseTask.exec h t p).1, (CaseTask.exec h t p).2) := by
  have hrun : (caught t).run p.state = Program.bind (t.run p.state) fun r => .done (.ok r.1, r.2) :=
    rfl
  unfold CaseTask.exec
  simp only [hrun, Program.run_bind]
  rfl

theorem dialogue_caught (p : Point σ) :
    CaseTask.dialogue h (caught t) p = CaseTask.dialogue h t p := by
  have hrun : (caught t).run p.state = Program.bind (t.run p.state) fun r => .done (.ok r.1, r.2) :=
    rfl
  unfold CaseTask.dialogue
  rw [hrun, Program.dialogue_bind]
  exact List.append_nil _

theorem exec_inFreshState (setting : Setting) (w : σ) :
    (inFreshState setting t).exec h w =
      ((CaseTask.exec h t ⟨.fresh setting.scopes, w⟩).1,
        (CaseTask.exec h t ⟨.fresh setting.scopes, w⟩).2.world) := by
  have hrun : (inFreshState setting t).run =
      Program.bind (t.run (CaseState.fresh setting.scopes)) fun r => .done r.1 := rfl
  unfold Task.exec CaseTask.exec
  simp only [hrun, Program.run_bind]
  rfl

theorem dialogue_inFreshState (setting : Setting) (w : σ) :
    (inFreshState setting t).dialogue h w = CaseTask.dialogue h t ⟨.fresh setting.scopes, w⟩ := by
  have hrun : (inFreshState setting t).run =
      Program.bind (t.run (CaseState.fresh setting.scopes)) fun r => .done r.1 := rfl
  unfold Task.dialogue CaseTask.dialogue
  rw [hrun, Program.dialogue_bind]
  exact List.append_nil _

end

end GrantProbe
