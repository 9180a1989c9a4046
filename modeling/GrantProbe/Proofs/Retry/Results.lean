import Mathlib.Algebra.Order.Field.Rat
import Mathlib.Data.ENat.Lattice
import GrantProbe.Proofs.Retry.Attempts
import GrantProbe.Retry.Trial

/-!
# What a retry makes of its results

The results that an operation gives, one for each attempt, decide how often it is attempted and what
the retry gives. How long it sleeps in between is decided by the settings, and by the factors that are
drawn if its delays are randomised.

* `DelayArithmetic.exact`: delays as exact numbers; `RetrySettings.delayAt`, `sleepAt`: the delays of
  settings in it, and what is slept;
* `RetrySettings.Paced`: what can be slept in any arithmetic; `course`: the requests of a retry;
* `answering`: the world in which attempts have given results; `failuresBefore`: how many fail first;
  `IsLast`: the last attempt of so many as may be made;
* `runs_trial`: a retry in such a world, in any arithmetic;
* `retry_follows_results`: in exact arithmetic, the whole of a retry, for every sequence of results.
-/

namespace GrantProbe

open Program (Handler)

variable {δ κ ε α : Type}

/-! ## Delays -/

/-- **Exact arithmetic:** numbers that are delays themselves. -/
def DelayArithmetic.exact (κ : Type) : DelayArithmetic κ κ := ⟨id, .ok⟩

namespace RetrySettings

/-- **The delays of settings,** exactly: the first one, and from then on each one multiplied, and no
longer than the maximum. -/
def delayAt [Mul κ] [Min κ] (c : RetrySettings κ κ) : ℕ → κ
  | 0 => c.initialDelay
  | i + 1 => min (c.delayAt i * c.multiplier) c.maxDelay

/-- **What is slept** after attempt number `i`: the delay, with the factor applied if delays are
randomised. -/
def sleepAt [Mul κ] [Min κ] (c : RetrySettings κ κ) (factors : ℕ → κ) (i : ℕ) : κ :=
  if c.jitter then c.delayAt i * factors i else c.delayAt i

/-- **Delays that can be computed:** in this arithmetic `delays` are those of the settings, and `sleeps`
what is slept when these factors are drawn, up to a limit. -/
structure Paced [Mul κ] [Min κ] (c : RetrySettings δ κ) (arithmetic : DelayArithmetic δ κ)
    (factors : ℕ → κ) (delays sleeps : ℕ → δ) (limit : ℕ) : Prop where
  first : delays 0 = c.initialDelay
  next : ∀ i < limit, c.nextDelay arithmetic (delays i) = .ok (delays (i + 1))
  plain : ∀ i < limit, c.jitter = false → sleeps i = delays i
  randomised : ∀ i < limit, c.jitter = true →
    jittered arithmetic (delays i) (factors i) = .ok (sleeps i)

theorem paced_exact [Mul κ] [Min κ] (c : RetrySettings κ κ) (factors : ℕ → κ) (limit : ℕ) :
    c.Paced (.exact κ) factors c.delayAt (c.sleepAt factors) limit where
  first := rfl
  next _ _ := rfl
  plain _ _ hplain := if_neg (Bool.eq_false_iff.mp hplain)
  randomised _ _ hjitter := congrArg Except.ok (if_pos hjitter).symm

/-! ## Requests -/

/-- **Between two attempts** there is one sleep, for which a factor is drawn if delays are randomised. -/
def pause (c : RetrySettings δ κ) (d : δ) : List (TrialAsk δ) :=
  if c.jitter then [.draw, .sleep d] else [.sleep d]

/-- **The requests of `n` attempts,** with a pause between each and the next. -/
def course (c : RetrySettings δ κ) (sleeps : ℕ → δ) (n : ℕ) : List (TrialAsk δ) :=
  (List.range (n - 1)).flatMap (fun i => [.attempt] ++ c.pause (sleeps i)) ++ [.attempt]

/-- **The most attempts that are made,** when attempts without a limit are followed for `patience` after
the first. -/
def limit (c : RetrySettings δ κ) (patience : ℕ) : ℕ :=
  if c.maxAttempts = 0 then patience + 1 else c.maxAttempts

theorem limit_pos (c : RetrySettings δ κ) (patience : ℕ) : 0 < c.limit patience := by
  unfold limit
  split_ifs <;> omega

/-- **What is given** for the result of the last attempt: a success or an error, but no error of
attempts without a limit, which would go on. -/
def given (c : RetrySettings δ κ) : Except ε α → Option (Except ε α)
  | .ok a => some (.ok a)
  | .error e => if c.maxAttempts = 0 then none else some (.error e)

end RetrySettings

/-! ## Results -/

/-- **The world in which attempt number `i` gives `results i`,** and the factor drawn after it is
`factors i`. Its state is the number of attempts that were made. -/
def answering (results : ℕ → Except ε α) (factors : ℕ → κ) : Handler (trialOf δ κ ε α) ℕ
  | .attempt, n => (results n, n + 1)
  | .sleep _, n => ((), n)
  | .draw, n => (factors (n - 1), n)

/-- **The failures before the first success.** There is no end of them if nothing succeeds. -/
noncomputable def failuresBefore (results : ℕ → Except ε α) : ℕ∞ :=
  ⨅ k : {k : ℕ // ∃ a, results k = .ok a}, (k.val : ℕ∞)

section
variable {results : ℕ → Except ε α} {n : ℕ}

theorem le_of_failures (hfail : ∀ i < n, ∃ e, results i = .error e)
    (k : {k : ℕ // ∃ a, results k = .ok a}) : n ≤ k.val := by
  obtain ⟨k, a, hk⟩ := k
  refine Nat.le_of_not_lt fun hlt => ?_
  obtain ⟨e, he⟩ := hfail k hlt
  rw [hk] at he
  cases he

theorem failuresBefore_eq {a : α} (hfail : ∀ i < n, ∃ e, results i = .error e)
    (hok : results n = .ok a) : failuresBefore results = n :=
  ENat.iInf_eq_natCast_iff.mpr ⟨⟨⟨n, a, hok⟩, rfl⟩, fun k => Nat.cast_le.mpr (le_of_failures hfail k)⟩

theorem le_failuresBefore (hfail : ∀ i < n, ∃ e, results i = .error e) :
    (n : ℕ∞) ≤ failuresBefore results :=
  le_iInf fun k => Nat.cast_le.mpr (le_of_failures hfail k)

end

/-- **The last attempt,** of so many as may be made: all before it fail, and it is the last that may be
made or it succeeds. -/
structure IsLast (results : ℕ → Except ε α) (limit n : ℕ) : Prop where
  within : n < limit
  failures : ∀ i < n, ∃ e, results i = .error e
  stop : n + 1 = limit ∨ ∃ a, results n = .ok a

theorem exists_isLast (results : ℕ → Except ε α) {limit : ℕ} (hpos : 0 < limit) :
    ∃ n, IsLast results limit n := by
  rcases failures_or_success results limit with ⟨n, hn, hfail, hok⟩ | hall
  · exact ⟨n, hn, hfail, Or.inr hok⟩
  · exact ⟨limit - 1, by omega, fun i hi => hall i (by omega), Or.inl (by omega)⟩

theorem IsLast.limit_le {results : ℕ → Except ε α} {limit n : ℕ} (hlast : IsLast results limit n)
    {e : ε} (he : results n = .error e) :
    n + 1 = limit ∧ (limit : ℕ∞) ≤ failuresBefore results := by
  have hlimit : n + 1 = limit := hlast.stop.resolve_right fun ⟨a, ha⟩ => by
    rw [he] at ha
    cases ha
  refine ⟨hlimit, le_failuresBefore fun i hi => ?_⟩
  rcases Nat.lt_succ_iff_lt_or_eq.mp (hlimit ▸ hi) with hi | rfl
  · exact hlast.failures i hi
  · exact ⟨e, he⟩

/-! ## Attempts -/

section
variable [Mul κ] [Min κ] {c : RetrySettings δ κ} {arithmetic : DelayArithmetic δ κ}
  {results : ℕ → Except ε α} {factors : ℕ → κ} {delays sleeps : ℕ → δ} {limit : ℕ}

variable (c arithmetic ε α) in
/-- The pace at which settings make their attempts. -/
abbrev RetrySettings.trialPace : Pace (trialOf δ κ ε α) δ :=
  c.pace arithmetic (fun d => Program.perform (S := trialOf δ κ ε α) (.sleep d))
    (Program.perform (S := trialOf δ κ ε α) .draw)

theorem runs_wait (hpaced : c.Paced arithmetic factors delays sleeps limit) {i : ℕ} (hi : i < limit) :
    ((c.trialPace ε α arithmetic).wait (delays i)).run.Runs (answering results factors) (i + 1)
      (c.pause (sleeps i)) (.ok ()) (i + 1) := by
  unfold RetrySettings.pause RetrySettings.trialPace RetrySettings.pace
  cases hjitter : c.jitter with
  | false =>
    rw [hpaced.plain i hi hjitter]
    exact ⟨rfl, rfl⟩
  | true =>
    have hdraw : (ExceptT.lift (m := Program (trialOf δ κ ε α)) (ε := Panic)
        (Program.perform (S := trialOf δ κ ε α) .draw)).run.Runs (answering results factors) (i + 1)
        [.draw] (.ok (factors i)) (i + 1) := ⟨rfl, rfl⟩
    simp only [if_true]
    refine hdraw.bind ?_
    simp only [ExceptT.bindCont, hpaced.randomised i hi hjitter]
    exact ⟨rfl, rfl⟩

theorem attempts_answering (hpaced : c.Paced arithmetic factors delays sleeps limit) :
    Attempts (answering results factors) (c.trialPace ε α arithmetic) attempt id (· + 1)
      (fun _ => [.attempt]) (fun i => c.pause (sleeps i)) results delays limit where
  attempt _ := ⟨rfl, rfl⟩
  wait _ hi := runs_wait hpaced hi
  next i hi := hpaced.next i hi

/-- **A retry goes as its results tell,** in any arithmetic in which its delays can be computed: the
attempt with number `n` is the last one if all before it fail, and it is the last one that may be made
or it succeeds. -/
theorem runs_trial {patience n : ℕ}
    (hpaced : c.Paced arithmetic factors delays sleeps (c.limit patience - 1))
    (hlast : IsLast results (c.limit patience) n) :
    (c.trial arithmetic patience).run.Runs (answering results factors) 0 (c.course sleeps (n + 1))
      (.ok (c.given (results n))) (n + 1) := by
  obtain ⟨hn, hfail, hstop⟩ := hlast
  have hattempts : (retryUpTo (c.trialPace ε α arithmetic) attempt (c.limit patience - 1)
      (delays 0)).run.Runs (answering results factors) 0 (c.course sleeps (n + 1))
        (.ok (results n)) (n + 1) :=
    (attempts_answering hpaced).runs (by omega) (Nat.le_refl _) hfail
      (hstop.imp_left fun heq => by omega)
  rw [hpaced.first] at hattempts
  unfold RetrySettings.trial RetrySettings.run RetrySettings.given
  unfold RetrySettings.limit at hattempts
  split_ifs at hattempts ⊢
  · refine hattempts.bind_silent ?_
    cases results n <;> exact ⟨rfl, rfl⟩
  · refine hattempts.bind_silent ?_
    cases results n <;> exact ⟨rfl, rfl⟩

end

/-- **What a retry makes of its results,** in exact arithmetic and for every sequence of them. It
attempts the operation up to the first success, or as often as it may; it sleeps once between an attempt
and the next, and not after the last; and it gives the result of the last attempt, which is the first
success if that comes in time, and else the last error. Attempts without a limit give no error: they go
on, however long they are followed. -/
theorem retry_follows_results (c : RetrySettings ℚ≥0 ℚ≥0) (results : ℕ → Except ε α)
    (factors : ℕ → ℚ≥0) (patience : ℕ) :
    ∃ n : ℕ, (n : ℕ∞) = min (c.limit patience : ℕ∞) (failuresBefore results + 1) ∧
      (c.trial (.exact ℚ≥0) patience).run.Runs (answering results factors) 0
        (c.course (c.sleepAt factors) n) (.ok (c.given (results (n - 1)))) n ∧
      (failuresBefore results < c.limit patience → ∃ a, results (n - 1) = .ok a) ∧
      (c.limit patience ≤ failuresBefore results → ∃ e, results (n - 1) = .error e) := by
  obtain ⟨k, hlast⟩ := exists_isLast results (c.limit_pos patience)
  have hruns := runs_trial (c.paced_exact factors _) hlast
  rcases hresult : results k with e | a
  · obtain ⟨heq, hle⟩ := hlast.limit_le hresult
    refine ⟨k + 1, ?_, hruns, fun hlt => absurd hlt (not_lt.mpr hle), fun _ => ⟨e, hresult⟩⟩
    rw [heq, min_eq_left (hle.trans le_self_add)]
  · have hbefore := failuresBefore_eq hlast.failures hresult
    refine ⟨k + 1, ?_, hruns, fun _ => ⟨a, hresult⟩, fun hle => ?_⟩
    · rw [hbefore, min_eq_right (by exact_mod_cast hlast.within)]
      rfl
    · rw [hbefore, Nat.cast_le] at hle
      exact absurd hlast.within (Nat.not_lt.mpr hle)

end GrantProbe
