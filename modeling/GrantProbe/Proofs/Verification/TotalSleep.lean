import Mathlib.Algebra.BigOperators.Group.Finset.Basic
import Mathlib.Algebra.BigOperators.Intervals
import Mathlib.Algebra.Order.Field.Basic
import Mathlib.Algebra.Order.Ring.NNRat
import Mathlib.Tactic.Ring
import GrantProbe.Access.Polling
import GrantProbe.Proofs.Transcript

/-!
# How long a verification sleeps

A verification sleeps between two reviews under one group, and its delays grow. The settings of a
verification give a closed form for the most that it can sleep, as a sum of powers. In exact
arithmetic no verification sleeps longer, whatever its reviews are answered, and one that no review
allows sleeps exactly so long.

* `Backoff.exact`: delays as exact numbers; `slept`: what requests sleep in all;
* `ladder`: a delay and those that it grows into, summed up;
* `powBySquaring_eq`, `geometricTotal_eq`: the closed form is a sum of powers;
* `runs_reviewGroup_exact`, `runs_reviewGroups_exact`: the reviews under a group, and under all;
* `total_sleep_le_maximum`: a whole verification.
-/

namespace GrantProbe

open Program (Handler)

/-- **Delays in exact arithmetic,** where every product is a delay. -/
def Backoff.exact {κ : Type} [Mul κ] (first factor : κ) : Backoff κ :=
  ⟨first, fun d => .ok (d * factor)⟩

/-- The delay that a request sleeps. -/
def PollAsk.sleep? {δ : Type} : PollAsk δ → Option δ
  | review _ => none
  | sleep d => some d

/-- **What requests sleep** in all. -/
def slept (asked : List (PollAsk ℚ≥0)) : ℚ≥0 := (asked.filterMap PollAsk.sleep?).sum

theorem slept_append (asked more : List (PollAsk ℚ≥0)) :
    slept (asked ++ more) = slept asked + slept more := by
  simp [slept, List.filterMap_append]

theorem slept_review (q : Review) : slept [.review q] = 0 := rfl

theorem slept_sleep (d : ℚ≥0) : slept [.sleep d] = d := by simp [slept, PollAsk.sleep?]

/-! ## The closed form -/

/-- **A delay and those that it grows into,** `n` of them in all. -/
def ladder (factor d : ℚ≥0) (n : ℕ) : ℚ≥0 := ∑ i ∈ Finset.range n, d * factor ^ i

theorem ladder_zero (factor d : ℚ≥0) : ladder factor d 0 = 0 := rfl

theorem ladder_succ (factor d : ℚ≥0) (n : ℕ) :
    ladder factor d (n + 1) = d + ladder factor (d * factor) n := by
  have hrest : ∀ i ∈ Finset.range n, d * factor ^ (i + 1) = d * factor * factor ^ i := by
    intro i _
    rw [pow_succ']
    ring
  unfold ladder
  rw [Finset.sum_range_succ', pow_zero, mul_one, Finset.sum_congr rfl hrest, add_comm]

/-- **Squaring gives the power.** The induction is on the exponent, which is halved. -/
theorem powBySquaring_eq {κ : Type} [Monoid κ] (acc base : κ) (n : ℕ) :
    powBySquaring acc base n = acc * base ^ n := by
  induction n using Nat.strong_induction_on generalizing acc base with
  | _ n ih =>
    rw [powBySquaring]
    by_cases hzero : n = 0
    · subst hzero
      simp
    · have hhalf : n / 2 < n := by omega
      have hsquare : (base * base) ^ (n / 2) = base ^ (2 * (n / 2)) := by rw [pow_mul, pow_two]
      have hbits : n = n % 2 + 2 * (n / 2) := by omega
      have hpower : base ^ n = base ^ (n % 2) * base ^ (2 * (n / 2)) := by
        rw [← pow_add, ← hbits]
      rw [dif_neg hzero]
      rcases Nat.mod_two_eq_zero_or_one n with heven | hodd
      · have hlarge : ¬ n < 2 := by omega
        simp only [heven, hlarge, if_false, Nat.zero_ne_one, ih _ hhalf, hsquare, hpower, pow_zero,
          one_mul]
      · by_cases hone : n < 2
        · obtain rfl : n = 1 := by omega
          simp
        · simp only [hodd, hone, if_true, if_false, ih _ hhalf, hsquare, hpower, pow_one, mul_assoc]

theorem foldl_add_range (f : ℕ → ℚ≥0) (n : ℕ) :
    ((List.range n).map f).foldl (· + ·) 0 = ∑ i ∈ Finset.range n, f i := by
  induction n with
  | zero => rfl
  | succ n ih =>
    rw [List.range_succ, List.map_append, List.foldl_append, ih, Finset.sum_range_succ]
    rfl

/-- **The total of a schedule** is that of its ladder, as often as there are copies of it. -/
theorem geometricTotal_eq (first factor copies : ℚ≥0) (count : ℕ) :
    geometricTotal 0 1 first factor copies count = ladder factor first count * copies := by
  unfold geometricTotal ladder
  simp only [powBySquaring_eq, one_mul, foldl_add_range]

/-! ## Reviews -/

section
variable {σ : Type} (h : Handler (polling ℚ≥0) σ) (w : σ)

theorem runs_poll (q : Review) :
    ((poller ℚ≥0).review q).attempt.Runs h w [.review q] (.ok (h (.review q) w).1)
      (h (.review q) w).2 := by
  have hask : (Task.always (Program.perform (S := polling ℚ≥0) (.review q))).Runs h w [.review q]
      (.ok (h (.review q) w).1) (h (.review q) w).2 := ⟨rfl, rfl⟩
  cases hanswer : (h (.review q) w).1 with
  | ok d =>
    rw [hanswer] at hask
    have hreview : ((poller ℚ≥0).review q).Runs h w [.review q] (.ok d) (h (.review q) w).2 :=
      hask.bind_ok (Task.runs_pure d)
    exact hreview.attempt_ok
  | error e =>
    rw [hanswer] at hask
    have hreview : ((poller ℚ≥0).review q).Runs h w [.review q] (.error (.error e))
        (h (.review q) w).2 := hask.bind_ok (Task.runs_fail e)
    exact hreview.attempt_error

theorem runs_rest (d : ℚ≥0) :
    ((poller ℚ≥0).sleep d).Runs h w [.sleep d] (.ok ()) (h (.sleep d) w).2 := ⟨rfl, rfl⟩

/-- **Reviews under one group** sleep no more than the ladder of their first delay, and just that if
none is allowed. The induction is on the reviews that may follow. -/
theorem runs_reviewGroup_exact (first factor : ℚ≥0) (query : Review) (more : ℕ) (delay : ℚ≥0)
    (seen : Tally) :
    ∃ asked passed seen' w',
      (reviewGroup (poller ℚ≥0) (Backoff.exact first factor).next query more delay seen).Runs h w
        asked (.ok (passed, seen')) w' ∧
      slept asked ≤ ladder factor delay more ∧
      (passed = false → slept asked = ladder factor delay more) := by
  induction more generalizing delay seen w with
  | zero =>
    have hreview := runs_poll h w query
    have hnone : slept [.review query] = ladder factor delay 0 := by
      rw [slept_review, ladder_zero]
    unfold reviewGroup
    rcases hanswer : (h (.review query) w).1 with e | (_ | reason) <;> rw [hanswer] at hreview
    · exact ⟨_, _, _, _, hreview.bind_ok (Task.runs_pure _), hnone.le, fun _ => hnone⟩
    · exact ⟨_, _, _, _, hreview.bind_ok (Task.runs_pure _), hnone.le, fun _ => hnone⟩
    · exact ⟨_, _, _, _, hreview.bind_ok (Task.runs_pure _), hnone.le, fun _ => hnone⟩
  | succ more ih =>
    have hreview := runs_poll h w query
    have hfirst (asked : List (PollAsk ℚ≥0)) : slept ([.review query] ++ asked) = slept asked := by
      rw [slept_append, slept_review, zero_add]
    -- What follows a review that is not allowed: a sleep, and the reviews that are left.
    have hlater (seen : Tally) : ∃ asked passed seen' w', Task.Runs h (do
        (poller ℚ≥0).sleep delay
        let delay ← Task.checkPanic ((Backoff.exact first factor).next delay)
        reviewGroup (poller ℚ≥0) (Backoff.exact first factor).next query more delay seen)
          (h (.review query) w).2 asked (.ok (passed, seen')) w' ∧
        slept asked ≤ ladder factor delay (more + 1) ∧
        (passed = false → slept asked = ladder factor delay (more + 1)) := by
      obtain ⟨asked, passed, seen', w', hruns, hle, heq⟩ :=
        ih (h (.sleep delay) (h (.review query) w).2).2 (delay * factor) seen
      have hslept : slept ([.sleep delay] ++ ([] ++ asked)) = delay + slept asked := by
        rw [slept_append, slept_sleep, List.nil_append]
      refine ⟨_, passed, seen', w',
        (runs_rest h _ delay).bind_ok ((Task.runs_pure _).bind_ok hruns), ?_, fun hpassed => ?_⟩
      · rw [hslept, ladder_succ]
        exact add_le_add_right hle delay
      · rw [hslept, ladder_succ, heq hpassed]
    unfold reviewGroup
    rcases hanswer : (h (.review query) w).1 with e | (_ | reason) <;> rw [hanswer] at hreview
    · obtain ⟨asked, passed, seen', w', hruns, hslept⟩ := hlater (seen.refused query.group false)
      exact ⟨_, passed, seen', w', hreview.bind_ok hruns, by rwa [hfirst]⟩
    · exact ⟨_, _, _, _, hreview.bind_ok (Task.runs_pure _), zero_le, fun hpassed => by cases hpassed⟩
    · obtain ⟨asked, passed, seen', w', hruns, hslept⟩ := hlater (seen.refused query.group true)
      exact ⟨_, passed, seen', w', hreview.bind_ok hruns, by rwa [hfirst]⟩

/-- **Reviews under each group in turn** sleep no more than a ladder for each group, and just that if
none is allowed. The induction is on the groups. -/
theorem runs_reviewGroups_exact (first factor : ℚ≥0) (more : ℕ) (q : GrantQuery)
    (groups : List String) (seen : Tally) :
    ∃ asked found seen' w',
      (reviewGroups (poller ℚ≥0) (.exact first factor) more q groups seen).Runs h w asked
        (.ok (found, seen')) w' ∧
      slept asked ≤ ladder factor first more * groups.length ∧
      (found = none → slept asked = ladder factor first more * groups.length) := by
  induction groups generalizing seen w with
  | nil => exact ⟨_, _, _, _, Task.runs_pure _, zero_le, fun _ => by simp [slept]⟩
  | cons group rest ih =>
    have hlength : ladder factor first more * ((group :: rest).length : ℕ) =
        ladder factor first more + ladder factor first more * rest.length := by
      rw [List.length_cons]
      push_cast
      ring
    obtain ⟨asked, passed, seen₁, w₁, hrow, hle, heq⟩ :=
      runs_reviewGroup_exact h w first factor (q.under group) more first seen
    unfold reviewGroups
    rw [hlength]
    cases passed with
    | true =>
      refine ⟨_, _, _, _, hrow.bind_ok (Task.runs_pure _), ?_, fun hfound => by cases hfound⟩
      rw [List.append_nil]
      exact hle.trans le_self_add
    | false =>
      obtain ⟨later, found, seen', w', hruns, hle', heq'⟩ := ih w₁ seen₁
      refine ⟨_, found, seen', w', hrow.bind_ok hruns, ?_, fun hfound => ?_⟩
      · rw [slept_append]
        exact add_le_add hle hle'
      · rw [slept_append, heq rfl, heq' hfound]

end

/-- **No verification sleeps longer than its settings say,** whatever its reviews are answered: not more
than the closed form, and just that if no review is allowed. It always comes to an end. Delays are exact
numbers here; each group has as many reviews as `maxRetries` says, and one if that is none. -/
theorem total_sleep_le_maximum {σ : Type} (h : Handler (polling ℚ≥0) σ) (w : σ) (first factor : ℚ≥0)
    (maxRetries : ℕ) (groups : List String) (policy : VerificationPolicy) (q : GrantQuery) :
    ∃ asked outcome w',
      (verify (poller ℚ≥0) (.exact first factor) maxRetries groups policy q).Runs h w asked outcome w' ∧
      (∀ p, outcome ≠ .error (.panic p)) ∧
      slept asked ≤ geometricTotal 0 1 first factor groups.length (maxRetries - 1) ∧
      ((∀ group attempts, outcome ≠ .ok (.verified group attempts)) →
        slept asked = geometricTotal 0 1 first factor groups.length (maxRetries - 1)) := by
  obtain ⟨asked, found, seen, w', hrows, hle, heq⟩ :=
    runs_reviewGroups_exact h w first factor (maxRetries - 1) q groups ⟨0, none⟩
  rw [geometricTotal_eq]
  unfold verify
  cases found with
  | some group =>
    refine ⟨_, _, _, hrows.bind_ok (Task.runs_pure _), fun p => by simp, ?_, fun hnever => ?_⟩
    · rwa [List.append_nil]
    · exact absurd rfl (hnever group seen.attempts)
  | none =>
    cases policy with
    | enforce =>
      refine ⟨_, _, _, hrows.bind_ok (Task.runs_fail _), fun p => by simp, ?_, fun _ => ?_⟩
      · rwa [List.append_nil]
      · rw [List.append_nil, heq rfl]
    | advisory =>
      refine ⟨_, _, _, hrows.bind_ok (Task.runs_pure _), fun p => by simp, ?_, fun _ => ?_⟩
      · rwa [List.append_nil]
      · rw [List.append_nil, heq rfl]

end GrantProbe
