import GrantProbe.Retry
import GrantProbe.Proofs.Transcript

/-!
# The attempts of a retry

A retry asks what its attempts ask, with a wait after each that failed and is followed by another. It
ends with the first success, or with the last failure that its limit allows, and what it gives is the
reply to its last attempt, unchanged.

* `Program.Runs`: a run of a program as its requests and its end;
* `Attempts`: the replies to the attempts of a retry, in the worlds that they meet;
* `Attempts.runs`: the requests and the end of a retry, for every sequence of replies;
* `failures_or_success`: a bounded sequence of replies has a first success, or none.
-/

namespace GrantProbe

open Program (Handler)

variable {S : Signature} {σ α β ε δ : Type}

namespace Program

/-- **A run with its requests:** from `w` the program makes the requests `asked` and ends with `a` in
`w'`. -/
structure Runs (h : Handler S σ) (p : Program S α) (w : σ) (asked : List S.Request) (a : α)
    (w' : σ) : Prop where
  run : p.run h w = (a, w')
  trace : p.trace h w = asked

section
variable {h : Handler S σ} {p : Program S α} {w w₁ w₂ : σ} {asked more : List S.Request} {a : α}
  {b : β}

theorem runs_done (a : α) : (done a : Program S α).Runs h w [] a w := ⟨rfl, rfl⟩

theorem Runs.bind {k : α → Program S β} (hp : p.Runs h w asked a w₁)
    (hk : (k a).Runs h w₁ more b w₂) : (p.bind k).Runs h w (asked ++ more) b w₂ := by
  refine ⟨?_, ?_⟩
  · rw [run_bind, hp.run, hk.run]
  · rw [trace_bind, hp.run, hp.trace, hk.trace]

theorem Runs.bind_silent {k : α → Program S β} (hp : p.Runs h w asked a w₁)
    (hk : (k a).Runs h w₁ [] b w₂) : (p.bind k).Runs h w asked b w₂ := by
  have hrun := hp.bind hk
  rw [List.append_nil] at hrun
  exact hrun

end

end Program

/-- **The attempts of a retry:** attempt number `i` (from zero) meets the world `before i`, makes the
requests `asked i`, is answered `replies i` and leaves `after i`, from where a wait of `delays i` leads
to the next. The delays go on up to a limit. -/
structure Attempts (h : Handler S σ) (pace : Pace S δ)
    (operation : ExceptT Panic (Program S) (Except ε α)) (before after : Nat → σ)
    (asked waited : Nat → List S.Request) (replies : Nat → Except ε α) (delays : Nat → δ)
    (limit : Nat) : Prop where
  attempt : ∀ i, operation.run.Runs h (before i) (asked i) (.ok (replies i)) (after i)
  wait : ∀ i < limit, (pace.wait (delays i)).run.Runs h (after i) (waited i) (.ok ()) (before (i + 1))
  next : ∀ i < limit, pace.next (delays i) = .ok (delays (i + 1))

namespace Attempts

variable {h : Handler S σ} {pace : Pace S δ} {operation : ExceptT Panic (Program S) (Except ε α)}
  {before after : Nat → σ} {asked waited : Nat → List S.Request} {replies : Nat → Except ε α}
  {delays : Nat → δ} {limit more k : Nat}

section
variable (A : Attempts h pace operation before after asked waited replies delays limit)
include A

/-- The last attempt: none may follow it, or it succeeds. -/
theorem runs_last (hstop : more = 0 ∨ ∃ a, replies k = .ok a) :
    (retryUpTo pace operation more (delays k)).run.Runs h (before k) (asked k) (.ok (replies k))
      (after k) := by
  rcases more with _ | more
  · exact A.attempt k
  · obtain hzero | ⟨a, ha⟩ := hstop
    · exact absurd hzero (Nat.succ_ne_zero more)
    · have hattempt := A.attempt k
      rw [ha] at hattempt ⊢
      exact hattempt.bind_silent (Program.runs_done _)

theorem runs_failed (hk : k < limit) {e : ε} (hfail : replies k = .error e)
    {later : List S.Request} {r : Except Panic (Except ε α)} {w : σ}
    (hlater : (retryUpTo pace operation more (delays (k + 1))).run.Runs h (before (k + 1)) later r w) :
    (retryUpTo pace operation (more + 1) (delays k)).run.Runs h (before k)
      (asked k ++ (waited k ++ later)) r w := by
  have hattempt := A.attempt k
  rw [hfail] at hattempt
  refine hattempt.bind ((A.wait k hk).bind ?_)
  simp only [ExceptT.bindCont, A.next k hk]
  exact hlater

/-- A retry from attempt number `k` on, of which the next `n` fail. -/
theorem runs_from {n : Nat} (hn : n ≤ more) (hlimit : k + n ≤ limit)
    (hfail : ∀ i, k ≤ i → i < k + n → ∃ e, replies i = .error e)
    (hstop : n = more ∨ ∃ a, replies (k + n) = .ok a) :
    (retryUpTo pace operation more (delays k)).run.Runs h (before k)
      ((List.range' k n).flatMap (fun i => asked i ++ waited i) ++ asked (k + n))
      (.ok (replies (k + n))) (after (k + n)) := by
  induction n generalizing k more with
  | zero => exact A.runs_last (hstop.imp_left Eq.symm)
  | succ n ih =>
    obtain ⟨more, rfl⟩ : ∃ m, more = m + 1 := ⟨more - 1, by omega⟩
    obtain ⟨e, he⟩ := hfail k (Nat.le_refl k) (by omega)
    have hshift : k + (n + 1) = k + 1 + n := by omega
    rw [hshift] at hlimit hfail hstop ⊢
    have hlater := ih (Nat.le_of_succ_le_succ hn) hlimit (fun i hi => hfail i (by omega))
      (hstop.imp_left Nat.succ.inj)
    have hrun := A.runs_failed (by omega) he hlater
    rw [List.range'_succ, List.flatMap_cons, List.append_assoc, List.append_assoc]
    exact hrun

/-- **The requests and the end of a retry** whose first `n` attempts fail and whose next one is the
last. -/
theorem runs {n : Nat} (hn : n ≤ more) (hlimit : more ≤ limit)
    (hfail : ∀ i < n, ∃ e, replies i = .error e) (hstop : n = more ∨ ∃ a, replies n = .ok a) :
    (retryUpTo pace operation more (delays 0)).run.Runs h (before 0)
      ((List.range n).flatMap (fun i => asked i ++ waited i) ++ asked n) (.ok (replies n))
      (after n) := by
  have hrun := A.runs_from (k := 0) hn (by omega) (fun i _ hi => hfail i (by omega))
    (by rwa [Nat.zero_add])
  rw [Nat.zero_add, ← List.range_eq_range'] at hrun
  exact hrun

end

end Attempts

/-- **A bounded sequence of replies** has a first success, or all of its replies are failures. -/
theorem failures_or_success (replies : Nat → Except ε α) (limit : Nat) :
    (∃ n < limit, (∀ i < n, ∃ e, replies i = .error e) ∧ ∃ a, replies n = .ok a) ∨
      ∀ i < limit, ∃ e, replies i = .error e := by
  induction limit with
  | zero => exact Or.inr fun i hi => absurd hi (Nat.not_lt_zero i)
  | succ limit ih =>
    rcases ih with ⟨n, hn, hfirst⟩ | hall
    · exact Or.inl ⟨n, Nat.lt_succ_of_lt hn, hfirst⟩
    · rcases hlast : replies limit with e | a
      · refine Or.inr fun i hi => ?_
        rcases Nat.lt_succ_iff_lt_or_eq.mp hi with hi | rfl
        · exact hall i hi
        · exact ⟨e, hlast⟩
      · exact Or.inl ⟨limit, Nat.lt_succ_self limit, hall, a, hlast⟩

end GrantProbe
