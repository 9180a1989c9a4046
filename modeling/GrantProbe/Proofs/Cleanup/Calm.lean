import GrantProbe.Proofs.Cleanup.Balance
import GrantProbe.Proofs.Verification.Schedule

/-!
# Tasks that do not end abnormally

Where no answer of the world is an abnormal end, one delay beyond what a duration holds is all that
can end the establishment of an identity abnormally.

* `Task.Calm`: a task that never ends abnormally, with a lemma for each way to build one;
* `calm_authorize`: an authorization, while its delays last; `not_abandons`: then no identity is
  lost.
-/

namespace GrantProbe

open Program (Handler)

namespace Task

variable {σ α β : Type} {h : Handler probe σ}

/-- **A task never ends abnormally** in this world. -/
def Calm (h : Handler probe σ) (t : Probe α) : Prop :=
  ∀ w x v, t.exec h w ≠ (.error (.panic x), v)

theorem calm_pure (a : α) : Calm h (pure a) := by
  intro w x v hpanic
  cases hpanic

theorem calm_fail (e : Error) : Calm h (fail e : Probe α) := by
  intro w x v hpanic
  cases hpanic

theorem Calm.bind {t : Probe α} {k : α → Probe β} (ht : Calm h t) (hk : ∀ a, Calm h (k a)) :
    Calm h (t >>= k) := by
  intro w x v hpanic
  rcases hr : t.exec h w with ⟨e | a, w'⟩
  · rw [exec_bind_error hr] at hpanic
    cases hpanic
    exact ht w x _ hr
  · rw [exec_bind_ok hr] at hpanic
    exact hk a w' x v hpanic

theorem Calm.attempt {t : Probe α} (ht : Calm h t) : Calm h t.attempt := by
  intro w x v hpanic
  rcases hr : t.exec h w with ⟨(e | y) | a, w'⟩
  · rw [exec_attempt_error hr] at hpanic
    cases hpanic
  · exact ht w y w' hr
  · rw [exec_attempt_ok hr] at hpanic
    cases hpanic

theorem Calm.reportFailure {t : Probe Unit} (ht : Calm h t) (what : String) :
    Calm h (reportFailure what t) := by
  refine ht.attempt.bind fun r => ?_
  rcases r with e | _ <;> exact calm_pure _

theorem Calm.retitle {t : Probe α} (ht : Calm h t) (f : Error → Error) : Calm h (t.retitle f) := by
  intro w x v hpanic
  rcases hr : t.exec h w with ⟨(e | y) | a, w'⟩
  · rw [exec_retitle_error f hr] at hpanic
    cases hpanic
  · exact ht w y w' hr
  · rw [exec_retitle_ok f hr] at hpanic
    cases hpanic

theorem calm_always (p : Program probe α) : Calm h (always p) := by
  intro w x v hpanic
  rw [exec_always] at hpanic
  cases hpanic

end Task

open GrantProbe.Task (Calm)

section
variable {σ : Type} {h : Handler probe σ}
  (hcalls : ∀ call w x, (h (.access call) w).1 ≠ .error (.panic x))
include hcalls

theorem calm_access (call : AccessCall) : Calm h (Probe.access call) := by
  intro w x v hpanic
  exact hcalls call w x (congrArg Prod.fst hpanic)

theorem calm_revoke (name scope : String) : Calm h (revoke Probe.access name scope) :=
  ((calm_access hcalls _).reportFailure _).bind fun _ =>
    ((calm_access hcalls _).reportFailure _).bind fun _ => Task.calm_pure _

theorem calm_grant (name scope : String) (c : Capability) :
    Calm h (grant Probe.access name scope c) :=
  ((calm_access hcalls _).retitle _).bind fun _ => ((calm_access hcalls _).retitle _).bind fun _ =>
    Task.calm_pure _

/-- Reviews under one group, while the delays last. The induction is on the reviews that are left.
-/
theorem calm_reviewGroup {b : Backoff Duration} {n k more : Nat} (hlasts : b.Lasts n)
    (hk : k + more ≤ n) {delay : Duration} (hd : b.delay k = .ok delay) (query : Review)
    (seen : Tally) : Calm h (reviewGroup Probe.reviewer b.next query more delay seen) := by
  induction more generalizing k delay seen with
  | zero =>
    unfold reviewGroup
    refine (calm_access hcalls (.review query)).attempt.bind fun r => ?_
    rcases r with e | (_ | reason) <;> exact Task.calm_pure _
  | succ more ih =>
    obtain ⟨delay', hd'⟩ := hlasts (k + 1) (by omega)
    have hnext : b.next delay = .ok delay' := by rw [← Backoff.delay_succ hd, hd']
    have hrest (seen : Tally) : Calm h (Probe.sleep delay >>= fun _ =>
        Task.checkPanic (b.next delay) >>= fun delay' =>
          reviewGroup Probe.reviewer b.next query more delay' seen) := by
      rw [hnext]
      exact (Task.calm_always _).bind fun _ => ih (by omega) hd' seen
    unfold reviewGroup
    refine (calm_access hcalls (.review query)).attempt.bind fun r => ?_
    rcases r with e | (_ | reason)
    · exact hrest _
    · exact Task.calm_pure _
    · exact hrest _

theorem calm_reviewGroups {b : Backoff Duration} {n : Nat} (hlasts : b.Lasts n) (q : GrantQuery)
    (groups : List String) (seen : Tally) :
    Calm h (reviewGroups Probe.reviewer b n q groups seen) := by
  induction groups generalizing seen with
  | nil => exact Task.calm_pure _
  | cons group rest ih =>
    have hrow := calm_reviewGroup hcalls hlasts (Nat.le_of_eq (Nat.zero_add n)) rfl (q.under group)
      seen
    refine hrow.bind fun r => ?_
    rcases r with ⟨_ | _, seen⟩
    · exact ih seen
    · exact Task.calm_pure _

variable {s : Setting} (hlasts : s.verifier.backoff.Lasts (s.verifier.maxRetries - 1))
include hlasts

theorem calm_verify (q : GrantQuery) :
    Calm h (s.verifier.verify Probe.reviewer s.verifier.policy q) := by
  refine (calm_reviewGroups hcalls hlasts q _ _).bind fun r => ?_
  rcases r with ⟨_ | group, seen⟩
  · cases s.verifier.policy with
    | enforce => exact Task.calm_fail _
    | advisory => exact Task.calm_pure _
  · exact Task.calm_pure _

/-- **An authorization** does not end abnormally while the delays last. -/
theorem calm_authorize (i : Identity) (c : Capability) : Calm h (s.authorize i c) := by
  refine (calm_grant hcalls _ _ c).bind fun _ => ?_
  split
  · exact Task.calm_pure _
  · rename_i verb _
    induction c.resources with
    | nil => exact Task.calm_pure _
    | cons kind rest ih => exact (calm_verify hcalls hlasts _).bind fun _ => ih

/-- **No identity is lost** while the delays last and no answer is an abnormal end. -/
theorem not_abandons (scope : String) (c : Capability) (w : σ) : ¬s.Abandons h scope c w := by
  rintro ⟨i, v, -, ⟨x, v', hpanic⟩ | ⟨e, v', x, v'', -, hpanic⟩⟩
  · exact calm_authorize hcalls hlasts i c v x v' hpanic
  · exact calm_revoke hcalls i.name i.scope v' x v'' hpanic

end

end GrantProbe
