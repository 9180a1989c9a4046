import Mathlib.Algebra.Order.Field.Basic
import Mathlib.Algebra.Order.Ring.NNRat
import Mathlib.Tactic.NormNum
import GrantProbe.Proofs.Retry.Results

/-!
# How long a retry sleeps

The settings of a retry have a maximum delay. It limits what is multiplied: every delay that comes from
another one. The first delay is taken as it is, and a random factor is applied after the limit, so that
a sleep can be longer than the maximum.

* `RetrySettings.StaysWithin`: no sleep of a retry is longer than the maximum;
* `RetrySettings.Follows`: an attempt may be followed by another, and so by a sleep;
* `staysWithin_iff_sleepAt`: what can be slept, by the number of the attempt before;
* `delayAt_eq`: delays that leave room for their factors are never cut off;
* `sleeps_stay_within_iff`: the settings whose retries stay within their maximum.
-/

namespace GrantProbe

namespace RetrySettings

variable {δ κ : Type}

/-- **No sleep is longer than the maximum:** whatever the results of the attempts are, and whatever
factors from 0.5 up to 1.5 are drawn. -/
def StaysWithin (c : RetrySettings ℚ≥0 ℚ≥0) : Prop :=
  ∀ (ε α : Type) (results : ℕ → Except ε α) (factors : ℕ → ℚ≥0) (patience : ℕ) (d : ℚ≥0),
    (∀ i, factors i ∈ Set.Ico (1 / 2) (3 / 2)) →
    TrialAsk.sleep d ∈ (c.trial (.exact ℚ≥0) patience).run.trace (answering results factors) 0 →
    d ≤ c.maxDelay

/-- **Attempt number `i` may be followed** by another one. -/
def Follows (c : RetrySettings δ κ) (i : ℕ) : Prop :=
  c.maxAttempts = 0 ∨ i + 1 < c.maxAttempts

section
variable {c : RetrySettings δ κ} {i : ℕ}

theorem Follows.of_le {j : ℕ} (h : c.Follows i) (hj : j ≤ i) : c.Follows j :=
  h.imp_right fun hlt => by omega

theorem Follows.zero (h : c.Follows i) : c.Follows 0 :=
  h.of_le (Nat.zero_le i)

/-- A limit that leaves room after an attempt is that of an attempt that may be followed. -/
theorem follows_of_lt_limit {patience : ℕ} (h : i + 1 < c.limit patience) : c.Follows i := by
  unfold limit at h
  split_ifs at h with hzero
  · exact Or.inl hzero
  · exact Or.inr h

theorem Follows.lt_limit (h : c.Follows i) : i + 1 < c.limit (i + 1) := by
  unfold limit
  rcases h with hzero | hlt
  · rw [if_pos hzero]
    omega
  · rw [if_neg (by omega)]
    exact hlt

/-! ## Sleeps -/

theorem sleep_mem_pause {d d' : δ} : TrialAsk.sleep d ∈ c.pause d' ↔ d = d' := by
  unfold pause
  split_ifs <;> simp

theorem sleep_mem_course {sleeps : ℕ → δ} {n : ℕ} {d : δ} :
    TrialAsk.sleep d ∈ c.course sleeps n ↔ ∃ i, i + 1 < n ∧ d = sleeps i := by
  simp only [course, List.mem_append, List.mem_flatMap, List.mem_range, List.mem_singleton,
    sleep_mem_pause, reduceCtorEq, false_or, or_false, Nat.lt_sub_iff_add_lt]

end

section
variable {c : RetrySettings ℚ≥0 ℚ≥0} {i : ℕ}

/-- **What can be slept:** after each attempt that may be followed its delay, with any factor. -/
theorem staysWithin_iff_sleepAt :
    c.StaysWithin ↔ ∀ i, c.Follows i → ∀ factors : ℕ → ℚ≥0,
      (∀ j, factors j ∈ Set.Ico (1 / 2) (3 / 2)) → c.sleepAt factors i ≤ c.maxDelay := by
  constructor
  · intro hwithin i hfollows factors hfactors
    -- Nothing but failures: the operation is attempted as often as it may.
    have hlimit := hfollows.lt_limit
    have hlast : IsLast (fun _ => (.error () : Except Unit Unit)) (c.limit (i + 1))
        (c.limit (i + 1) - 1) := ⟨by omega, fun _ _ => ⟨(), rfl⟩, Or.inl (by omega)⟩
    refine hwithin Unit Unit (fun _ => .error ()) factors (i + 1) _ hfactors ?_
    rw [(runs_trial (c.paced_exact factors _) hlast).trace]
    exact sleep_mem_course.mpr ⟨i, by omega, rfl⟩
  · intro hall ε α results factors patience d hfactors hmem
    obtain ⟨n, hlast⟩ := exists_isLast results (c.limit_pos patience)
    rw [(runs_trial (c.paced_exact factors _) hlast).trace] at hmem
    obtain ⟨i, hi, rfl⟩ := sleep_mem_course.mp hmem
    have hlimit : i + 1 < c.limit patience := hi.trans_le hlast.within
    exact hall i (follows_of_lt_limit hlimit) factors hfactors

/-! ## Delays -/

theorem delayAt_le (c : RetrySettings ℚ≥0 ℚ≥0) (i : ℕ) :
    c.delayAt i ≤ c.initialDelay * c.multiplier ^ i := by
  induction i with
  | zero => rw [pow_zero, mul_one]; rfl
  | succ i ih =>
    calc c.delayAt (i + 1) ≤ c.delayAt i * c.multiplier := min_le_left _ _
      _ ≤ c.initialDelay * c.multiplier ^ i * c.multiplier := by gcongr
      _ = c.initialDelay * c.multiplier ^ (i + 1) := by rw [pow_succ, mul_assoc]

/-- **Delays that leave room for a factor** below a positive maximum grow as if there were none: one that
had been cut off would be the maximum itself. -/
theorem delayAt_eq (hpos : 0 < c.maxDelay) (hroom : ∀ j ≤ i, c.delayAt j * (3 / 2) ≤ c.maxDelay) :
    c.delayAt i = c.initialDelay * c.multiplier ^ i := by
  induction i with
  | zero => rw [pow_zero, mul_one]; rfl
  | succ i ih =>
    have hprior := ih fun j hj => hroom j (hj.trans (Nat.le_succ i))
    have hgrown : c.initialDelay * c.multiplier ^ (i + 1) = c.delayAt i * c.multiplier := by
      rw [hprior, pow_succ, mul_assoc]
    rw [hgrown]
    refine min_eq_left (le_of_not_gt fun hcut => ?_)
    have hmax : c.delayAt (i + 1) = c.maxDelay := min_eq_right hcut.le
    have hlast := hroom (i + 1) (Nat.le_refl _)
    rw [hmax, mul_le_iff_le_one_right hpos] at hlast
    exact absurd hlast (by norm_num)

/-- All delays leave room for a factor exactly if they do when nothing limits their growth. -/
theorem delays_leave_room_iff :
    (∀ i, c.Follows i → c.delayAt i * (3 / 2) ≤ c.maxDelay) ↔
      ∀ i, c.Follows i → c.initialDelay * c.multiplier ^ i * (3 / 2) ≤ c.maxDelay := by
  refine ⟨fun hroom i hi => ?_, fun hroom i hi => ?_⟩
  · rcases eq_zero_or_pos c.maxDelay with hzero | hpos
    · have hfirst : c.initialDelay * (3 / 2) ≤ c.maxDelay := hroom 0 hi.zero
      have hinitial : c.initialDelay = 0 := by
        rw [hzero] at hfirst
        exact (mul_eq_zero.mp (le_antisymm hfirst (zero_le))).resolve_right (by norm_num)
      rw [hinitial, zero_mul, zero_mul]
      exact zero_le
    · rw [← delayAt_eq hpos fun j hj => hroom j (hi.of_le hj)]
      exact hroom i hi
  · calc c.delayAt i * (3 / 2) ≤ c.initialDelay * c.multiplier ^ i * (3 / 2) := by
          gcongr
          exact c.delayAt_le i
      _ ≤ c.maxDelay := hroom i hi

/-- Every factor leaves a delay within a bound exactly if the limit of the factors does. -/
theorem forall_factor_iff {d bound : ℚ≥0} :
    (∀ f ∈ Set.Ico (1 / 2 : ℚ≥0) (3 / 2), d * f ≤ bound) ↔ d * (3 / 2) ≤ bound := by
  refine ⟨fun hall => le_of_not_gt fun hlt => ?_, fun hle f hf => ?_⟩
  · have hpos : 0 < d := pos_of_mul_pos_left (lt_of_le_of_lt (zero_le) hlt) (zero_le)
    have hhalf : (1 / 2 : ℚ≥0) < 3 / 2 := by norm_num
    obtain ⟨f, hf, hlimit⟩ := exists_between (max_lt hhalf ((div_lt_iff₀' hpos).mpr hlt))
    have hfactor := hall f ⟨(le_max_left _ _).trans hf.le, hlimit⟩
    have hbeyond := (div_lt_iff₀' hpos).mp (lt_of_le_of_lt (le_max_right _ _) hf)
    exact absurd hfactor (not_le_of_gt hbeyond)
  · exact (mul_le_mul_right hf.2.le d).trans hle

/-! ## Settings -/

/-- Without randomised delays only the first one can be too long. -/
theorem staysWithin_iff_of_plain (hplain : c.jitter = false) :
    c.StaysWithin ↔ (c.Follows 0 → c.initialDelay ≤ c.maxDelay) := by
  have hsleep (factors : ℕ → ℚ≥0) (i : ℕ) : c.sleepAt factors i = c.delayAt i :=
    if_neg (Bool.eq_false_iff.mp hplain)
  simp only [staysWithin_iff_sleepAt, hsleep]
  constructor
  · intro hall hfollows
    exact hall 0 hfollows (fun _ => 1) fun _ => by norm_num
  · intro hfirst i hi factors _
    cases i with
    | zero => exact hfirst hi
    | succ i => exact min_le_right _ _

/-- With randomised delays each one has to leave room for its factor. -/
theorem staysWithin_iff_of_randomised (hjitter : c.jitter = true) :
    c.StaysWithin ↔
      ∀ i, c.Follows i → c.initialDelay * c.multiplier ^ i * (3 / 2) ≤ c.maxDelay := by
  have hsleep (factors : ℕ → ℚ≥0) (i : ℕ) : c.sleepAt factors i = c.delayAt i * factors i :=
    if_pos hjitter
  rw [← delays_leave_room_iff]
  simp only [staysWithin_iff_sleepAt, hsleep, ← forall_factor_iff]
  refine forall₂_congr fun i _ => ⟨fun hall f hf => hall (fun _ => f) fun _ => hf, ?_⟩
  exact fun hall factors hfactors => hall _ (hfactors i)

end

end RetrySettings

/-- **The settings whose retries stay within their maximum.** Without randomised delays they are those
whose first delay is no longer than the maximum, or which never sleep at all. With randomised delays the
maximum must not come to bear at all: half as much again as any delay that is slept, multiplied as often
as attempts may follow, has to be within it. -/
theorem sleeps_stay_within_iff (c : RetrySettings ℚ≥0 ℚ≥0) :
    c.StaysWithin ↔ (c.Follows 0 → c.initialDelay ≤ c.maxDelay) ∧
      (c.jitter = true → ∀ i, c.Follows i →
        c.initialDelay * c.multiplier ^ i * (3 / 2) ≤ c.maxDelay) := by
  cases hjitter : c.jitter with
  | false =>
    rw [RetrySettings.staysWithin_iff_of_plain hjitter]
    exact (and_iff_left fun hfalse => by cases hfalse).symm
  | true =>
    rw [RetrySettings.staysWithin_iff_of_randomised hjitter]
    refine ⟨fun hroom => ⟨fun hfollows => ?_, fun _ => hroom⟩, fun hboth => hboth.2 rfl⟩
    have hone : (1 : ℚ≥0) ≤ 3 / 2 := (one_le_div two_pos).mpr (by norm_num)
    calc c.initialDelay ≤ c.initialDelay * (3 / 2) := le_mul_of_one_le_right zero_le hone
      _ = c.initialDelay * c.multiplier ^ 0 * (3 / 2) := by rw [pow_zero, mul_one]
      _ ≤ c.maxDelay := hroom 0 hfollows

/-- **Sleeps beyond the maximum:** two attempts that are told to start with 20 s and to sleep 10 s at
most sleep 20 s; and ten attempts with the standard delays sleep more than 30 s before the last one, if
the factor of the ninth delay, which is 25.6 s, is 1.25. -/
theorem sleeps_beyond_maximum :
    ¬ RetrySettings.StaysWithin ⟨2, 20, 10, 3 / 2, false⟩ ∧
      ¬ RetrySettings.StaysWithin ⟨10, 1 / 10, 30, 2, true⟩ := by
  constructor
  · rw [RetrySettings.staysWithin_iff_of_plain rfl]
    intro hfirst
    exact absurd (hfirst (Or.inr (by norm_num))) (by norm_num)
  · rw [RetrySettings.staysWithin_iff_of_randomised rfl]
    intro hroom
    exact absurd (hroom 8 (Or.inr (by norm_num))) (by norm_num)

end GrantProbe
