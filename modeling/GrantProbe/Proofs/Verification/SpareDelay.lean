import GrantProbe.Proofs.Verification.Answers

/-!
# The delay that is never slept

Under each group a verification computes a new delay after every sleep, after the last one too, where no
sleep follows. So it takes one delay more than it sleeps to go through all reviews of a group, and where
that delay cannot be represented the verification ends abnormally.

* `Backoff.Breaks`: the delays break after one of them; `lasts_or_breaks`: they last, or they break;
* `runs_row_breaks`, `runs_verify_breaks`: what is asked before an abnormal end;
* `verify_panics_iff`: when a verification ends abnormally, for every sequence of answers, and which
  settings never let it.
-/

namespace GrantProbe

open Program (Handler)

/-! ## Delays -/

/-- **The delays break** after number `k`: this one can be represented, and the one after it cannot. -/
def Backoff.Breaks (b : Backoff Duration) (k : Nat) (x : Panic) : Prop :=
  ∃ d, b.delay k = .ok d ∧ b.next d = .error x

section
variable {b : Backoff Duration} {k n : Nat} {d : Duration} {x : Panic}

theorem Backoff.lasts_of_delay (hd : b.delay n = .ok d) : b.Lasts n := by
  induction n generalizing d with
  | zero =>
    intro i hi
    obtain rfl : i = 0 := by omega
    exact ⟨d, hd⟩
  | succ n ih =>
    rcases hn : b.delay n with x | d'
    · rw [Backoff.delay, hn] at hd
      cases hd
    · intro i hi
      rcases Nat.lt_or_ge n i with hlast | hearlier
      · obtain rfl : i = n + 1 := by omega
        exact ⟨d, hd⟩
      · exact ih hn i hearlier

/-- **Delays last, or they break** at some point before. -/
theorem Backoff.lasts_or_breaks (b : Backoff Duration) (n : Nat) :
    b.Lasts n ∨ ∃ k < n, ∃ x, b.Breaks k x := by
  induction n with
  | zero => exact Or.inl (Backoff.lasts_of_delay rfl)
  | succ n ih =>
    rcases ih with hlasts | ⟨k, hk, hbreaks⟩
    · obtain ⟨d, hd⟩ := hlasts n (Nat.le_refl n)
      rcases hnext : b.next d with x | d'
      · exact Or.inr ⟨n, Nat.lt_succ_self n, x, d, hd, hnext⟩
      · exact Or.inl (Backoff.lasts_of_delay ((Backoff.delay_succ hd).trans hnext))
    · exact Or.inr ⟨k, Nat.lt_succ_of_lt hk, hbreaks⟩

end

/-! ## Runs that break -/

section
variable {σ : Type} {h : Handler probe σ} {v : σ} {query : Review} {delay : Duration}
  {next : Duration → Except Panic Duration} {more : Nat} {seen : Tally} {x : Panic}

theorem runs_reviewGroup_breaks (hr : IsRefused (h (.access (.review query)) v).1)
    (hnext : next delay = .error x) :
    (reviewGroup Probe.reviewer next query (more + 1) delay seen).Runs h v
      ([.access (.review query)] ++ ([.sleep delay] ++ [])) (.error (.panic x))
      (h (.sleep delay) (h (.access (.review query)) v).2).2 := by
  have hreview := runs_reviewer (h := h) (v := v) query
  have hsleep := runs_sleeper (h := h) (v := (h (.access (.review query)) v).2) delay
  unfold reviewGroup
  rcases hr with ⟨reason, hr⟩ | ⟨e, hr⟩ <;> rw [hr] at hreview
  · refine hreview.attempt_ok.bind_ok (hsleep.bind_ok ?_)
    rw [hnext]
    exact ⟨rfl, rfl⟩
  · refine hreview.attempt_error.bind_ok (hsleep.bind_ok ?_)
    rw [hnext]
    exact ⟨rfl, rfl⟩

end

section
variable {σ : Type} (c : VerifierConfig) (h : Handler probe σ) (q : GrantQuery) (w : σ)

/-- **A row that breaks,** from its review number `k` to its review number `k + m`. All are refused, and
after the sleep that follows the last of them there is no next delay. The induction is on the reviews
that may follow. -/
theorem runs_row_breaks {p k more m : Nat} (hk : k + more + 1 = c.rounds) (hm : m < more)
    {delay d : Duration} {x : Panic} (hdelay : c.backoff.delay k = .ok delay)
    (hd : c.backoff.delay (k + m) = .ok d) (hnext : c.backoff.next d = .error x)
    (hrefused : ∀ j ≤ m, IsRefused (c.reply h q w (p * c.rounds + k + j))) :
    (reviewGroup Probe.reviewer c.backoff.next (q.under (c.groups.getD p "")) more delay
        (c.tally h q w (p * c.rounds + k))).Runs h (c.worldBefore h q w (p * c.rounds + k))
      (c.reviewAt q (p * c.rounds + k) ::
        ((List.range' (p * c.rounds + k + 1) m).flatMap (c.entry q) ++ [.sleep d]))
      (.error (.panic x)) (h (.sleep d) (c.worldAfter h q w (p * c.rounds + k + m))).2 := by
  induction more generalizing k m delay with
  | zero => omega
  | succ more ih =>
    have hfirst : IsRefused (c.reply h q w (p * c.rounds + k)) := hrefused 0 (Nat.zero_le m)
    cases m with
    | zero =>
      -- The delay that is slept after this review is the last that can be represented.
      have hgroup := c.groupAt_row (p := p) (k := k) (by omega)
      obtain rfl : d = delay := by
        rw [Nat.add_zero, hdelay] at hd
        injection hd with hd
        exact hd.symm
      rw [← hgroup]
      exact runs_reviewGroup_breaks hfirst hnext
    | succ m =>
      obtain ⟨delay', hdelay'⟩ := Backoff.lasts_of_delay hd (k + 1) (by omega)
      have hindex (j : Nat) : p * c.rounds + (k + 1) + j = p * c.rounds + k + (j + 1) := by omega
      have hshift : k + (m + 1) = k + 1 + m := by omega
      have hrest := ih (k := k + 1) (m := m) (by omega) (by omega) hdelay' (hshift ▸ hd)
        (fun j hj => by rw [hindex]; exact hrefused (j + 1) (by omega))
      rw [hindex m] at hrest
      rw [List.range'_succ, List.flatMap_cons, List.append_assoc]
      exact runs_row_succ c h q w (by omega) hdelay hdelay' hfirst hrest

/-- **A verification that breaks.** All of its reviews are refused, under its first group, and it ends
after a sleep. -/
theorem runs_verify_breaks (policy : VerificationPolicy) (hgroups : c.groups ≠ []) {k : Nat}
    (hk : k + 1 < c.rounds) {d : Duration} {x : Panic} (hd : c.backoff.delay k = .ok d)
    (hnext : c.backoff.next d = .error x) (hrefused : ∀ i ≤ k, IsRefused (c.reply h q w i)) :
    (c.verify Probe.reviewer policy q).Runs h w (c.schedule q (k + 1) ++ [.sleep d])
      (.error (.panic x)) (h (.sleep d) (c.worldAfter h q w k)).2 := by
  have hrounds := c.maxRetries_pred
  obtain ⟨group, rest, hcons⟩ := List.exists_cons_of_ne_nil hgroups
  have hgroup : c.groups.getD 0 "" = group := by rw [hcons]; rfl
  have hentry : c.entry q 0 = [c.reviewAt q 0] := by simpa using entry_row_zero c q 0
  have hlast : 0 + (c.maxRetries - 1) + 1 = c.rounds := by omega
  have hrow := runs_row_breaks c h q w (p := 0) (m := k) hlast (by omega) rfl
    (by rwa [Nat.zero_add]) hnext (by simpa using hrefused)
  simp only [Nat.zero_mul, Nat.zero_add, hgroup] at hrow
  have hasked : c.schedule q (k + 1) ++ [.sleep d] =
      c.reviewAt q 0 :: ((List.range' 1 k).flatMap (c.entry q) ++ [.sleep d]) := by
    rw [VerifierConfig.schedule, List.range_eq_range', List.range'_succ, List.flatMap_cons, hentry]
    rfl
  rw [hasked]
  unfold VerifierConfig.verify verify
  rw [hcons]
  unfold reviewGroups
  exact hrow.bind_error.bind_error

end

/-! ## When a verification ends abnormally -/

section
variable {σ : Type} (rest : Handler probe σ) (w : σ) (c : VerifierConfig)
  (policy : VerificationPolicy) (q : GrantQuery) (answers : Nat → Except Error Decision)

/-- **The end of a verification** whose reviews are answered in turn. -/
def VerifierConfig.ending : Outcome Verdict :=
  ((c.verify Probe.reviewer policy q).exec (answerInTurn answers rest) (0, w)).1

theorem isRefused_inTurn {i : Nat} (hi : answers i ≠ .ok .allowed) :
    IsRefused (c.reply (answerInTurn answers rest) q (0, w) i) := by
  rw [reply_inTurn]
  exact isRefused_answered hi

theorem ending_of_no_groups (hgroups : c.groups = []) (x : Panic) :
    c.ending rest w policy q answers ≠ .error (.panic x) := by
  unfold VerifierConfig.ending VerifierConfig.verify verify
  rw [hgroups]
  cases policy <;> simp [reviewGroups]

variable {answers}

theorem ending_of_allowed {n : Nat} (hn : n < c.budget) (hallowed : answers n = .ok .allowed)
    (hlasts : c.backoff.Lasts (min n (c.maxRetries - 1))) (x : Panic) :
    c.ending rest w policy q answers ≠ .error (.panic x) := by
  classical
  have hsome : ∃ i, answers i = .ok .allowed := ⟨n, hallowed⟩
  -- The first review that is allowed is the last one that is asked.
  obtain ⟨m, hm⟩ : ∃ m, m = Nat.find hsome := ⟨_, rfl⟩
  have hle : m ≤ n := hm ▸ Nat.find_min' hsome hallowed
  have hfirst : c.reply (answerInTurn answers rest) q (0, w) m = .ok .allowed := by
    have hspec : answers m = .ok .allowed := hm ▸ Nat.find_spec hsome
    rw [reply_inTurn, hspec]
    rfl
  have hrun := runs_verify_verified c (answerInTurn answers rest) q (0, w) policy
    (hlasts.mono (by omega)) (by omega)
    (fun i hi => isRefused_inTurn rest w c q answers (Nat.find_min hsome (hm ▸ hi))) hfirst
  unfold VerifierConfig.ending
  rw [hrun.exec]
  simp

/-- **Delays that last** let every verification end well. -/
theorem ending_of_lasts (hlasts : c.backoff.Lasts (c.maxRetries - 1)) (x : Panic) :
    c.ending rest w policy q answers ≠ .error (.panic x) := by
  by_cases hnone : ∀ n < c.budget, answers n ≠ .ok .allowed
  · have hrun := runs_verify_refused c (answerInTurn answers rest) q (0, w) hlasts policy
      fun i hi => isRefused_inTurn rest w c q answers (hnone i hi)
    unfold VerifierConfig.ending
    rw [hrun.exec]
    cases policy <;> simp [giveUp]
  · push Not at hnone
    obtain ⟨n, hn, hallowed⟩ := hnone
    exact ending_of_allowed rest w c policy q hn hallowed (hlasts.mono (Nat.min_le_right ..)) x

/-- Delays that break end a verification abnormally, unless a review is allowed before. -/
theorem ending_of_breaks (hgroups : c.groups ≠ []) {k : Nat} (hk : k + 1 < c.rounds) {x : Panic}
    (hbreaks : c.backoff.Breaks k x) (hrefused : ∀ i ≤ k, answers i ≠ .ok .allowed) :
    c.ending rest w policy q answers = .error (.panic x) := by
  obtain ⟨d, hd, hnext⟩ := hbreaks
  have hrun := runs_verify_breaks c (answerInTurn answers rest) q (0, w) policy hgroups hk hd hnext
    fun i hi => isRefused_inTurn rest w c q answers (hrefused i hi)
  exact congrArg Prod.fst hrun.exec

/-- **An abnormal end** comes of delays that break while every review is refused, and of nothing else. -/
theorem ending_eq_panic_iff (answers : Nat → Except Error Decision) (x : Panic) :
    c.ending rest w policy q answers = .error (.panic x) ↔
      c.groups ≠ [] ∧ ∃ k, k + 1 < c.rounds ∧ c.backoff.Breaks k x ∧
        ∀ i ≤ k, answers i ≠ .ok .allowed := by
  have hrounds := c.maxRetries_pred
  constructor
  · intro hpanic
    have hgroups : c.groups ≠ [] := fun hnil =>
      ending_of_no_groups rest w c policy q answers hnil x hpanic
    have hlength : 0 < c.groups.length := List.length_pos_iff.mpr hgroups
    have hbudget : c.rounds ≤ c.budget := Nat.le_mul_of_pos_left _ hlength
    rcases c.backoff.lasts_or_breaks (c.maxRetries - 1) with hlasts | ⟨k, hk, x', hbreaks⟩
    · exact absurd hpanic (ending_of_lasts rest w c policy q hlasts x)
    · -- What counts is whether a review is allowed before the delays break.
      by_cases hrefused : ∀ i ≤ k, answers i ≠ .ok .allowed
      · have hpanic' := ending_of_breaks rest w c policy q hgroups (by omega) hbreaks hrefused
        obtain rfl : x = x' := by
          rw [hpanic] at hpanic'
          injection hpanic' with hstop
          injection hstop
        exact ⟨hgroups, k, by omega, hbreaks, hrefused⟩
      · push Not at hrefused
        obtain ⟨i, hi, hallowed⟩ := hrefused
        obtain ⟨d, hd, -⟩ := hbreaks
        have hle : min i (c.maxRetries - 1) ≤ k := by omega
        have hlasts := (Backoff.lasts_of_delay hd).mono hle
        exact absurd hpanic (ending_of_allowed rest w c policy q (by omega) hallowed hlasts x)
  · rintro ⟨hgroups, k, hk, hbreaks, hrefused⟩
    exact ending_of_breaks rest w c policy q hgroups hk hbreaks hrefused

end

/-- **When a verification ends abnormally.** For every sequence of answers it does so exactly if a delay
cannot be represented that is computed after a sleep under the first group, and every review before that
sleep is refused. Settings never let it, whatever the answers, exactly if they have no groups or if the
delay number `maxRetries - 1` can be represented, counted from zero. That is one delay more than is slept
under a group. -/
theorem verify_panics_iff {σ : Type} (rest : Handler probe σ) (w : σ) (c : VerifierConfig)
    (policy : VerificationPolicy) (q : GrantQuery) :
    (∀ answers x, c.ending rest w policy q answers = .error (.panic x) ↔
      c.groups ≠ [] ∧ ∃ k, k + 1 < c.rounds ∧ c.backoff.Breaks k x ∧
        ∀ i ≤ k, answers i ≠ .ok .allowed) ∧
    ((∀ answers x, c.ending rest w policy q answers ≠ .error (.panic x)) ↔
      c.groups = [] ∨ ∃ d, c.backoff.delay (c.maxRetries - 1) = .ok d) := by
  have hrounds := c.maxRetries_pred
  refine ⟨ending_eq_panic_iff rest w c policy q, fun hnever => ?_, fun hsettings answers x => ?_⟩
  · by_cases hgroups : c.groups = []
    · exact Or.inl hgroups
    · rcases c.backoff.lasts_or_breaks (c.maxRetries - 1) with hlasts | ⟨k, hk, x, hbreaks⟩
      · exact Or.inr (hlasts _ (Nat.le_refl _))
      · let denials : Nat → Except Error Decision := fun _ => .ok (.denied none)
        have hrefused : ∀ i ≤ k, denials i ≠ .ok .allowed := fun _ _ => nofun
        have hpanic := ending_of_breaks rest w c policy q hgroups (by omega) hbreaks hrefused
        exact absurd hpanic (hnever denials x)
  · rcases hsettings with hgroups | ⟨d, hd⟩
    · exact ending_of_no_groups rest w c policy q answers hgroups x
    · exact ending_of_lasts rest w c policy q (Backoff.lasts_of_delay hd) x

/-- Two reviews under one group, and so one sleep; every delay is the one before it with its sign
reversed. -/
def reversing : VerifierConfig := ⟨2, .ofSeconds 1, -1.0, [trackingGroup], .enforce⟩

/-- The same with delays that grow beyond what a duration holds. -/
def soaring : VerifierConfig := { reversing with multiplier := 1e20 }

/-- **A schedule that can be slept ends abnormally.** Its only delay is a second, and so is the most that
a verification sleeps; but once that is over, a delay is computed that is negative, or too long. -/
theorem reversing_panics :
    (∀ c ∈ [reversing, soaring], (∀ i < c.maxRetries - 1, ∃ d, c.backoff.delay i = .ok d) ∧
      c.maxTotalSleep.toOption = some (.ofSeconds 1)) ∧
    reversing.ending World.answer (.fresh trackingGroup 0 true) .enforce readExperiments
      (fun _ => .ok (.denied none)) = .error (.panic Duration.negativePanic) ∧
    soaring.ending World.answer (.fresh trackingGroup 0 true) .enforce readExperiments
      (fun _ => .ok (.denied none)) = .error (.panic Duration.overflowPanic) := by
  have hnegative : Duration.scale (.ofSeconds 1) (-1.0) = .error Duration.negativePanic := by
    decide +kernel
  have hoverflow : Duration.scale (.ofSeconds 1) 1e20 = .error Duration.overflowPanic := by
    decide +kernel
  refine ⟨?_, ?_, ?_⟩
  · intro c hc
    have hmost : ∀ c ∈ [reversing, soaring], c.maxTotalSleep.toOption = some (.ofSeconds 1) := by
      decide +kernel
    refine ⟨fun i hi => ?_, hmost c hc⟩
    have hretries : ∀ c ∈ [reversing, soaring], c.maxRetries = 2 := by decide
    obtain rfl : i = 0 := by
      rw [hretries c hc] at hi
      omega
    exact ⟨_, rfl⟩
  · exact ending_of_breaks World.answer _ reversing .enforce readExperiments (by decide) (k := 0)
      (by decide) ⟨_, rfl, hnegative⟩ fun _ _ => nofun
  · exact ending_of_breaks World.answer _ soaring .enforce readExperiments (by decide) (k := 0)
      (by decide) ⟨_, rfl, hoverflow⟩ fun _ _ => nofun

end GrantProbe
