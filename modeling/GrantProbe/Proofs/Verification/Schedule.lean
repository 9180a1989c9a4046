import Mathlib.Data.List.Basic
import GrantProbe.Proofs.Transcript

/-!
# The schedule of a verification

A verification asks for reviews in the order of a table: a row for each group, with as many reviews
as the settings allow, and a sleep between two reviews of a row. Review number `i` (from zero)
stands in row `i / rounds`. Whatever the world answers, a run follows the table up to the first
review that is allowed, and to its end if there is none.

* `VerifierConfig.rounds`, `budget`, `groupAt`, `pause`, `schedule`: the table;
* `VerifierConfig.worldBefore`, `reply`: the world along the table, and what it answers;
* `runs_row_succ`, `runs_row`: a row; `runs_reviewGroups_allowed`, `runs_reviewGroups_refused`: the rows;
* `runs_verify_verified`, `runs_verify_refused`: the two ways in which a verification ends.
-/

namespace GrantProbe

open Program (Handler)

/-- The delays of a schedule can be represented, up to the one after a number of steps. -/
def Backoff.Lasts (b : Backoff Duration) (steps : Nat) : Prop := ∀ i ≤ steps, ∃ d, b.delay i = .ok d

theorem Backoff.Lasts.mono {b : Backoff Duration} {steps fewer : Nat} (h : b.Lasts steps)
    (hle : fewer ≤ steps) : b.Lasts fewer := fun i hi => h i (Nat.le_trans hi hle)

theorem Backoff.delay_succ {b : Backoff Duration} {k : Nat} {d : Duration} (hd : b.delay k = .ok d) :
    b.delay (k + 1) = b.next d := by
  rw [Backoff.delay, hd]
  rfl

namespace VerifierConfig

/-- **The reviews under one group.** None at all stands for one. -/
def rounds (c : VerifierConfig) : Nat := max 1 c.maxRetries

/-- The reviews under all groups. -/
def budget (c : VerifierConfig) : Nat := c.groups.length * c.rounds

/-- The group of a review. -/
def groupAt (c : VerifierConfig) (i : Nat) : String := c.groups.getD (i / c.rounds) ""

/-- **What is slept before a review:** nothing before the first under a group, and the delay that
has grown `k` times before the one after `k` others of them. -/
def pause (c : VerifierConfig) (i : Nat) : List Duration :=
  match i % c.rounds with
  | 0 => []
  | k + 1 => (c.backoff.delay k).toOption.toList

/-- The request for a review. -/
def reviewAt (c : VerifierConfig) (q : GrantQuery) (i : Nat) : Ask :=
  .access (.review (q.under (c.groupAt i)))

/-- A review with the sleep before it. -/
def entry (c : VerifierConfig) (q : GrantQuery) (i : Nat) : List Ask :=
  (c.pause i).map Ask.sleep ++ [c.reviewAt q i]

/-- **The schedule:** the first `n` reviews, with the sleeps between them. -/
def schedule (c : VerifierConfig) (q : GrantQuery) (n : Nat) : List Ask :=
  (List.range n).flatMap (c.entry q)

theorem rounds_pos (c : VerifierConfig) : 0 < c.rounds := Nat.le_max_left ..

theorem maxRetries_pred (c : VerifierConfig) : c.maxRetries - 1 + 1 = c.rounds := by
  unfold rounds
  omega

section
variable (c : VerifierConfig) {p k : Nat} (hk : k < c.rounds)
include hk

theorem div_rounds : (p * c.rounds + k) / c.rounds = p := by
  rw [Nat.mul_comm, Nat.mul_add_div c.rounds_pos, Nat.div_eq_of_lt hk, Nat.add_zero]

theorem groupAt_row : c.groupAt (p * c.rounds + k) = c.groups.getD p "" := by
  rw [groupAt, c.div_rounds hk]

end

theorem pause_row_zero (c : VerifierConfig) (p : Nat) : c.pause (p * c.rounds) = [] := by
  rw [pause, Nat.mul_mod_left]

theorem pause_row_succ (c : VerifierConfig) {p k : Nat} (hk : k + 1 < c.rounds) {d : Duration}
    (hd : c.backoff.delay k = .ok d) : c.pause (p * c.rounds + (k + 1)) = [d] := by
  have hmod : (p * c.rounds + (k + 1)) % c.rounds = k + 1 := by
    rw [Nat.mul_comm, Nat.mul_add_mod, Nat.mod_eq_of_lt hk]
  rw [pause, hmod]
  simp only [hd]
  rfl

/-! ## The world along the schedule -/

section
variable {σ : Type} (c : VerifierConfig) (h : Handler probe σ) (q : GrantQuery) (w : σ)

/-- **The world before a review** of the schedule: the reviews before it have been asked, and all
sleeps are over. -/
def worldBefore : Nat → σ
  | 0 => w
  | i + 1 =>
    (c.pause (i + 1)).foldl (fun v d => (h (.sleep d) v).2) (h (c.reviewAt q i) (worldBefore i)).2

/-- **What the world answers** to a review of the schedule. -/
def reply (i : Nat) : Outcome Decision :=
  (h (.access (.review (q.under (c.groupAt i)))) (c.worldBefore h q w i)).1

/-- The world after a review of the schedule. -/
def worldAfter (i : Nat) : σ := (h (c.reviewAt q i) (c.worldBefore h q w i)).2

theorem worldBefore_succ (i : Nat) : c.worldBefore h q w (i + 1) =
    (c.pause (i + 1)).foldl (fun v d => (h (.sleep d) v).2) (c.worldAfter h q w i) := rfl

end

end VerifierConfig

/-- A review is denied. -/
def isDenied : Outcome Decision → Bool
  | .ok (.denied _) => true
  | _ => false

/-- **A review is refused:** it is denied, or its answer is an error. -/
def IsRefused (r : Outcome Decision) : Prop :=
  (∃ reason, r = .ok (.denied reason)) ∨ ∃ e, r = .error (.error e)

/-- What has been seen before a review of the schedule. -/
def VerifierConfig.tally {σ : Type} (c : VerifierConfig) (h : Handler probe σ) (q : GrantQuery)
    (w : σ) : Nat → Tally
  | 0 => ⟨0, none⟩
  | i + 1 => (c.tally h q w i).refused (c.groupAt i) (isDenied (c.reply h q w i))

/-! ## A row -/

section
variable {σ : Type} {h : Handler probe σ} {v v' : σ} {query : Review} {delay : Duration}
  {next : Duration → Except Panic Duration} {more : Nat} {seen : Tally}

theorem runs_reviewer (query : Review) :
    (Probe.reviewer.review query).Runs h v [.access (.review query)]
      (h (.access (.review query)) v).1 (h (.access (.review query)) v).2 := ⟨rfl, rfl⟩

theorem runs_sleeper (d : Duration) :
    (Probe.reviewer.sleep d).Runs h v [.sleep d] (.ok ()) (h (.sleep d) v).2 := ⟨rfl, rfl⟩

theorem runs_reviewGroup_allowed (hr : (h (.access (.review query)) v).1 = .ok .allowed) :
    (reviewGroup Probe.reviewer next query more delay seen).Runs h v [.access (.review query)]
      (.ok (true, seen.refused query.group false)) (h (.access (.review query)) v).2 := by
  have hreview := runs_reviewer (h := h) (v := v) query
  rw [hr] at hreview
  unfold reviewGroup
  exact hreview.attempt_ok.bind_ok (Task.runs_pure _)

theorem runs_reviewGroup_last (hr : IsRefused (h (.access (.review query)) v).1) :
    (reviewGroup Probe.reviewer next query 0 delay seen).Runs h v [.access (.review query)]
      (.ok (false, seen.refused query.group (isDenied (h (.access (.review query)) v).1)))
      (h (.access (.review query)) v).2 := by
  have hreview := runs_reviewer (h := h) (v := v) query
  unfold reviewGroup
  rcases hr with ⟨reason, hr⟩ | ⟨e, hr⟩ <;> rw [hr] at hreview ⊢
  · exact hreview.attempt_ok.bind_ok (Task.runs_pure _)
  · exact hreview.attempt_error.bind_ok (Task.runs_pure _)

theorem runs_reviewGroup_more (hr : IsRefused (h (.access (.review query)) v).1)
    {delay' : Duration} (hnext : next delay = .ok delay') {asked : List Ask}
    {o : Outcome (Bool × Tally)}
    (hrest : (reviewGroup Probe.reviewer next query more delay'
      (seen.refused query.group (isDenied (h (.access (.review query)) v).1))).Runs h
      (h (.sleep delay) (h (.access (.review query)) v).2).2 asked o v') :
    (reviewGroup Probe.reviewer next query (more + 1) delay seen).Runs h v
      ([.access (.review query)] ++ ([.sleep delay] ++ asked)) o v' := by
  have hreview := runs_reviewer (h := h) (v := v) query
  have hsleep := runs_sleeper (h := h) (v := (h (.access (.review query)) v).2) delay
  unfold reviewGroup
  rcases hr with ⟨reason, hr⟩ | ⟨e, hr⟩ <;> rw [hr] at hreview hrest
  · refine hreview.attempt_ok.bind_ok (hsleep.bind_ok ?_)
    rw [hnext]
    exact hrest
  · refine hreview.attempt_error.bind_ok (hsleep.bind_ok ?_)
    rw [hnext]
    exact hrest

end

section
variable {σ : Type} (c : VerifierConfig) (h : Handler probe σ) (q : GrantQuery) (w : σ)

theorem worldBefore_row_succ {p k : Nat} (hk : k + 1 < c.rounds) {d : Duration}
    (hd : c.backoff.delay k = .ok d) :
    c.worldBefore h q w (p * c.rounds + k + 1) =
      (h (.sleep d) (c.worldAfter h q w (p * c.rounds + k))).2 := by
  rw [c.worldBefore_succ, Nat.add_assoc, c.pause_row_succ hk hd]
  rfl

theorem worldBefore_next_row {p : Nat} {i : Nat} (hi : i + 1 = p * c.rounds) :
    c.worldBefore h q w (i + 1) = c.worldAfter h q w i := by
  rw [c.worldBefore_succ, hi, c.pause_row_zero]
  rfl

/-- **A row goes on:** after a review that is refused come a sleep, and the row from the next review on. -/
theorem runs_row_succ {p k more : Nat} (hk : k + 1 < c.rounds) {delay delay' : Duration}
    (hdelay : c.backoff.delay k = .ok delay) (hdelay' : c.backoff.delay (k + 1) = .ok delay')
    (hfirst : IsRefused (c.reply h q w (p * c.rounds + k))) {asked : List Ask}
    {o : Outcome (Bool × Tally)} {v' : σ}
    (hrest : (reviewGroup Probe.reviewer c.backoff.next (q.under (c.groups.getD p "")) more delay'
        (c.tally h q w (p * c.rounds + k + 1))).Runs h (c.worldBefore h q w (p * c.rounds + k + 1))
      (c.reviewAt q (p * c.rounds + k + 1) :: asked) o v') :
    (reviewGroup Probe.reviewer c.backoff.next (q.under (c.groups.getD p "")) (more + 1) delay
        (c.tally h q w (p * c.rounds + k))).Runs h (c.worldBefore h q w (p * c.rounds + k))
      (c.reviewAt q (p * c.rounds + k) :: (c.entry q (p * c.rounds + k + 1) ++ asked)) o v' := by
  have hgroup := c.groupAt_row (p := p) (k := k) (by omega)
  have hnext : c.backoff.next delay = .ok delay' := by rw [← Backoff.delay_succ hdelay, hdelay']
  have hpause := c.pause_row_succ (p := p) hk hdelay
  have hentry : c.entry q (p * c.rounds + k + 1) =
      [.sleep delay] ++ [c.reviewAt q (p * c.rounds + k + 1)] := by
    rw [VerifierConfig.entry, Nat.add_assoc, hpause]
    rfl
  rw [worldBefore_row_succ c h q w hk hdelay] at hrest
  rw [hentry, List.append_assoc]
  rw [← hgroup] at hrest ⊢
  exact runs_reviewGroup_more hfirst hnext hrest

/-- **A run of a row,** from its review number `k` to its review number `k + m`, which is allowed or
the last. All before are refused, and the delays last so far. The induction is on the reviews that are
left. -/
theorem runs_row {p k more m : Nat} (hlasts : c.backoff.Lasts (k + m))
    (hk : k + more + 1 = c.rounds) (hm : m ≤ more) {delay : Duration}
    (hdelay : c.backoff.delay k = .ok delay) {allowed : Bool}
    (hrefused : ∀ j < m, IsRefused (c.reply h q w (p * c.rounds + k + j)))
    (hend : (allowed = true ∧ c.reply h q w (p * c.rounds + k + m) = .ok .allowed) ∨
      (allowed = false ∧ m = more ∧ IsRefused (c.reply h q w (p * c.rounds + k + m)))) :
    (reviewGroup Probe.reviewer c.backoff.next (q.under (c.groups.getD p "")) more delay
        (c.tally h q w (p * c.rounds + k))).Runs h (c.worldBefore h q w (p * c.rounds + k))
      (c.reviewAt q (p * c.rounds + k) ::
        (List.range' (p * c.rounds + k + 1) m).flatMap (c.entry q))
      (.ok (allowed, c.tally h q w (p * c.rounds + k + m + 1)))
      (c.worldAfter h q w (p * c.rounds + k + m)) := by
  induction more generalizing k m delay with
  | zero =>
    obtain rfl : m = 0 := by omega
    have hgroup := c.groupAt_row (p := p) (k := k) (by omega)
    rw [← hgroup]
    rcases hend with ⟨rfl, hr⟩ | ⟨rfl, -, hr⟩
    · have hdenied : isDenied (c.reply h q w (p * c.rounds + k)) = false := by
        rw [show c.reply h q w (p * c.rounds + k) = .ok .allowed from hr]
        rfl
      rw [VerifierConfig.tally, Nat.add_zero, hdenied]
      exact runs_reviewGroup_allowed hr
    · exact runs_reviewGroup_last hr
  | succ more ih =>
    have hgroup := c.groupAt_row (p := p) (k := k) (by omega)
    cases m with
    | zero =>
      obtain ⟨rfl, hr⟩ : allowed = true ∧ c.reply h q w (p * c.rounds + k + 0) = .ok .allowed := by
        rcases hend with hend | ⟨-, hlast, -⟩
        · exact hend
        · omega
      have hdenied : isDenied (c.reply h q w (p * c.rounds + k)) = false := by
        rw [show c.reply h q w (p * c.rounds + k) = .ok .allowed from hr]
        rfl
      rw [← hgroup, VerifierConfig.tally, Nat.add_zero, hdenied]
      exact runs_reviewGroup_allowed hr
    | succ m =>
      obtain ⟨delay', hdelay'⟩ := hlasts (k + 1) (by omega)
      have hindex (j : Nat) : p * c.rounds + (k + 1) + j = p * c.rounds + k + (j + 1) := by omega
      have hfirst : IsRefused (c.reply h q w (p * c.rounds + k)) := hrefused 0 (by omega)
      have hrest := ih (k := k + 1) (m := m) (hlasts.mono (by omega)) (by omega) (by omega) hdelay'
        (fun j hj => by rw [hindex]; exact hrefused (j + 1) (by omega))
        (by
          rw [hindex]
          exact hend.imp_right fun ⟨hf, hlast, hr⟩ => ⟨hf, by omega, hr⟩)
      rw [hindex m] at hrest
      rw [List.range'_succ, List.flatMap_cons]
      exact runs_row_succ c h q w (by omega) hdelay hdelay' hfirst hrest

/-! ## The rows -/

theorem entry_row_zero (p : Nat) : c.entry q (p * c.rounds) = [c.reviewAt q (p * c.rounds)] := by
  rw [VerifierConfig.entry, c.pause_row_zero]
  rfl

theorem runs_row_allowed {p m : Nat} (hlasts : c.backoff.Lasts m) (hm : m < c.rounds)
    (hrefused : ∀ j < m, IsRefused (c.reply h q w (p * c.rounds + j)))
    (hallowed : c.reply h q w (p * c.rounds + m) = .ok .allowed) :
    (reviewGroup Probe.reviewer c.backoff.next (q.under (c.groups.getD p "")) (c.maxRetries - 1)
        c.backoff.first (c.tally h q w (p * c.rounds))).Runs h (c.worldBefore h q w (p * c.rounds))
      ((List.range' (p * c.rounds) (m + 1)).flatMap (c.entry q))
      (.ok (true, c.tally h q w (p * c.rounds + m + 1))) (c.worldAfter h q w (p * c.rounds + m)) := by
  have hrounds := c.maxRetries_pred
  rw [List.range'_succ, List.flatMap_cons, entry_row_zero]
  exact runs_row c h q w (k := 0) (hlasts.mono (by omega)) (by omega) (by omega) rfl hrefused
    (Or.inl ⟨rfl, hallowed⟩)

theorem runs_row_refused (hlasts : c.backoff.Lasts (c.maxRetries - 1)) {p : Nat}
    (hrefused : ∀ j < c.rounds, IsRefused (c.reply h q w (p * c.rounds + j))) :
    (reviewGroup Probe.reviewer c.backoff.next (q.under (c.groups.getD p "")) (c.maxRetries - 1)
        c.backoff.first (c.tally h q w (p * c.rounds))).Runs h (c.worldBefore h q w (p * c.rounds))
      ((List.range' (p * c.rounds) c.rounds).flatMap (c.entry q))
      (.ok (false, c.tally h q w ((p + 1) * c.rounds)))
      (c.worldBefore h q w ((p + 1) * c.rounds)) := by
  have hrounds := c.maxRetries_pred
  have hlast : p * c.rounds + 0 + (c.maxRetries - 1) + 1 = (p + 1) * c.rounds := by
    rw [Nat.succ_mul]
    omega
  have hrow := runs_row c h q w (p := p) (k := 0) (m := c.maxRetries - 1) (hlasts.mono (by omega))
    (by omega) (Nat.le_refl _) rfl (fun j hj => hrefused j (by omega))
    (Or.inr ⟨rfl, rfl, hrefused _ (by omega)⟩)
  rw [← worldBefore_next_row c h q w hlast, hlast] at hrow
  have hrange (i : Nat) : List.range' i c.rounds = i :: List.range' (i + 1) (c.maxRetries - 1) := by
    rw [← hrounds, List.range'_succ]
  rw [hrange, List.flatMap_cons, entry_row_zero]
  exact hrow

theorem drop_cons {groups rest : List String} {p : Nat} {group : String}
    (hdrop : groups.drop p = group :: rest) :
    groups.getD p "" = group ∧ groups.drop (p + 1) = rest := by
  constructor
  · rw [List.getD_eq_getElem?_getD, ← List.head?_drop, hdrop]
    rfl
  · rw [← List.tail_drop, hdrop]
    rfl

/-- **Rows up to a review that is allowed.** The delays last that long. The induction is on the groups that
are left. -/
theorem runs_reviewGroups_allowed {groups : List String} {p m : Nat}
    (hlasts : c.backoff.Lasts (min m (c.maxRetries - 1))) (hgroups : c.groups.drop p = groups)
    (hm : m < groups.length * c.rounds)
    (hrefused : ∀ j < m, IsRefused (c.reply h q w (p * c.rounds + j)))
    (hallowed : c.reply h q w (p * c.rounds + m) = .ok .allowed) :
    (reviewGroups Probe.reviewer c.backoff (c.maxRetries - 1) q groups
        (c.tally h q w (p * c.rounds))).Runs h (c.worldBefore h q w (p * c.rounds))
      ((List.range' (p * c.rounds) (m + 1)).flatMap (c.entry q))
      (.ok (some (c.groupAt (p * c.rounds + m)), c.tally h q w (p * c.rounds + m + 1)))
      (c.worldAfter h q w (p * c.rounds + m)) := by
  induction groups generalizing p m with
  | nil => simp at hm
  | cons group rest ih =>
    obtain ⟨hgroup, hrest⟩ := drop_cons hgroups
    unfold reviewGroups
    by_cases hrow : m < c.rounds
    · have hlast : m ≤ min m (c.maxRetries - 1) := by have := c.maxRetries_pred; omega
      have hfirst := runs_row_allowed c h q w (hlasts.mono hlast) hrow hrefused hallowed
      rw [hgroup] at hfirst
      rw [c.groupAt_row hrow, hgroup, ← List.append_nil (List.flatMap _ _)]
      exact hfirst.bind_ok (Task.runs_pure _)
    · have hindex (j : Nat) : (p + 1) * c.rounds + j = p * c.rounds + (c.rounds + j) := by
        rw [Nat.succ_mul]
        omega
      have hwhole : c.maxRetries - 1 ≤ min m (c.maxRetries - 1) := by
        have := c.maxRetries_pred
        omega
      have hfirst := runs_row_refused c h q w (hlasts.mono hwhole) (p := p) fun j hj =>
        hrefused j (by omega)
      have hlater := ih (p := p + 1) (m := m - c.rounds) (hlasts.mono (by omega)) hrest
        (by rw [List.length_cons, Nat.succ_mul] at hm; omega)
        (fun j hj => by rw [hindex]; exact hrefused _ (by omega))
        (by rw [hindex, Nat.add_sub_cancel' (by omega)]; exact hallowed)
      have hrange : List.range' (p * c.rounds) (m + 1) =
          List.range' (p * c.rounds) c.rounds ++
            List.range' ((p + 1) * c.rounds) (m - c.rounds + 1) := by
        rw [Nat.succ_mul, List.range'_append_1]
        congr 1
        omega
      rw [hindex, Nat.add_sub_cancel' (by omega)] at hlater
      rw [hgroup] at hfirst
      rw [hrange, List.flatMap_append]
      exact hfirst.bind_ok hlater

/-- **Rows that are refused from end to end.** -/
theorem runs_reviewGroups_refused (hlasts : c.backoff.Lasts (c.maxRetries - 1))
    {groups : List String} {p : Nat} (hgroups : c.groups.drop p = groups)
    (hrefused : ∀ j < groups.length * c.rounds, IsRefused (c.reply h q w (p * c.rounds + j))) :
    (reviewGroups Probe.reviewer c.backoff (c.maxRetries - 1) q groups
        (c.tally h q w (p * c.rounds))).Runs h (c.worldBefore h q w (p * c.rounds))
      ((List.range' (p * c.rounds) (groups.length * c.rounds)).flatMap (c.entry q))
      (.ok (none, c.tally h q w ((p + groups.length) * c.rounds)))
      (c.worldBefore h q w ((p + groups.length) * c.rounds)) := by
  induction groups generalizing p with
  | nil =>
    rw [List.length_nil, Nat.zero_mul, Nat.add_zero]
    exact Task.runs_pure _
  | cons group rest ih =>
    obtain ⟨hgroup, hrest⟩ := drop_cons hgroups
    have hindex (j : Nat) : (p + 1) * c.rounds + j = p * c.rounds + (c.rounds + j) := by
      rw [Nat.succ_mul]
      omega
    have hlength : (group :: rest).length * c.rounds = c.rounds + rest.length * c.rounds := by
      rw [List.length_cons, Nat.succ_mul, Nat.add_comm]
    have hfirst := runs_row_refused c h q w hlasts (p := p) fun j hj => hrefused j (by omega)
    have hlater := ih (p := p + 1) hrest fun j hj => by rw [hindex]; exact hrefused _ (by omega)
    have hend : p + 1 + rest.length = p + (group :: rest).length := by
      rw [List.length_cons]
      omega
    rw [hend] at hlater
    rw [hgroup] at hfirst
    unfold reviewGroups
    rw [hlength, ← List.range'_append_1, List.flatMap_append, ← Nat.succ_mul]
    exact hfirst.bind_ok hlater

/-! ## What has been seen -/

theorem attempts_tally (n : Nat) : (c.tally h q w n).attempts = n := by
  induction n with
  | zero => rfl
  | succ n ih => simp only [VerifierConfig.tally, Tally.refused, ih]

/-- The responder is the group of the first review that is denied. -/
theorem responder_tally (n : Nat) : (c.tally h q w n).responder =
    ((List.range n).find? fun i => isDenied (c.reply h q w i)).map c.groupAt := by
  induction n with
  | zero => rfl
  | succ n ih =>
    simp only [VerifierConfig.tally, Tally.refused, ih, List.range_succ, List.find?_append]
    cases (List.range n).find? fun i => isDenied (c.reply h q w i) with
    | some i => cases isDenied (c.reply h q w n) <;> rfl
    | none => cases hd : isDenied (c.reply h q w n) <;> simp [hd]

/-! ## The verdict -/

/-- **The end of a verification that is never allowed,** as the policy says. -/
def giveUp (c : VerifierConfig) (q : GrantQuery) (responder : Option String) :
    VerificationPolicy → Outcome Verdict
  | .enforce =>
    .error (.error (.exhausted q.identity q.scope q.resource.text q.verb.text c.groups))
  | .advisory => .ok (.unverified c.groups responder c.budget)

/-- **A verification ends with the first review that is allowed,** as long as the delays last until
then. -/
theorem runs_verify_verified (policy : VerificationPolicy) {n : Nat}
    (hlasts : c.backoff.Lasts (min n (c.maxRetries - 1))) (hn : n < c.budget)
    (hrefused : ∀ i < n, IsRefused (c.reply h q w i))
    (hallowed : c.reply h q w n = .ok .allowed) :
    (c.verify Probe.reviewer policy q).Runs h w (c.schedule q (n + 1))
      (.ok (.verified (c.groupAt n) (n + 1))) (c.worldAfter h q w n) := by
  have hrows := runs_reviewGroups_allowed c h q w (p := 0) (m := n) hlasts rfl hn
    (by simpa using hrefused) (by simpa using hallowed)
  simp only [Nat.zero_mul, Nat.zero_add] at hrows
  have hend : Verdict.verified (c.groupAt n) (n + 1) =
      .verified (c.groupAt n) (c.tally h q w (n + 1)).attempts := by rw [attempts_tally]
  unfold VerifierConfig.verify verify
  rw [VerifierConfig.schedule, List.range_eq_range', ← List.append_nil (List.flatMap _ _), hend]
  exact hrows.bind_ok (Task.runs_pure _)

/-- **A verification ends with the first review that is allowed.** -/
theorem runs_verify_allowed (hlasts : c.backoff.Lasts (c.maxRetries - 1))
    (policy : VerificationPolicy) {n : Nat} (hn : n < c.budget)
    (hrefused : ∀ i < n, IsRefused (c.reply h q w i))
    (hallowed : c.reply h q w n = .ok .allowed) :
    (c.verify Probe.reviewer policy q).Runs h w (c.schedule q (n + 1))
      (.ok (.verified (c.groupAt n) (n + 1))) (c.worldAfter h q w n) :=
  runs_verify_verified c h q w policy (hlasts.mono (Nat.min_le_right ..)) hn hrefused hallowed

/-- **A verification that is never allowed** ends with the last review. -/
theorem runs_verify_refused (hlasts : c.backoff.Lasts (c.maxRetries - 1))
    (policy : VerificationPolicy) (hrefused : ∀ i < c.budget, IsRefused (c.reply h q w i)) :
    (c.verify Probe.reviewer policy q).Runs h w (c.schedule q c.budget)
      (giveUp c q (c.tally h q w c.budget).responder policy) (c.worldBefore h q w c.budget) := by
  have hrows := runs_reviewGroups_refused c h q w hlasts (p := 0) c.groups.drop_zero
    (by intro j hj; rw [Nat.zero_mul, Nat.zero_add]; exact hrefused j hj)
  simp only [Nat.zero_mul, Nat.zero_add] at hrows
  unfold VerifierConfig.verify verify
  rw [VerifierConfig.schedule, List.range_eq_range', ← List.append_nil (List.flatMap _ _)]
  cases policy with
  | enforce => exact hrows.bind_ok (Task.runs_fail _)
  | advisory =>
    have hend (responder : Option String) : giveUp c q responder .advisory =
        .ok (.unverified c.groups responder (c.tally h q w c.budget).attempts) := by
      rw [giveUp, attempts_tally]
    rw [hend]
    exact hrows.bind_ok (Task.runs_pure _)

end

end GrantProbe
