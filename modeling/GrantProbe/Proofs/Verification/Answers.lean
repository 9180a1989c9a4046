import Mathlib.Data.Nat.Find
import GrantProbe.Proofs.Verification.Schedule
import GrantProbe.World.Simulation

/-!
# Answers in turn

What a verification does depends on nothing but the answers to its reviews, in their order. Given a
sequence of answers, it asks the groups row by row, and stops after the first review that is
allowed.

* `reviewsIn`: the reviews among requests; `VerifierConfig.rowByRow`: all reviews of a verification;
* `reviewsIn_schedule_eq_take`: the schedule asks row by row;
* `answerInTurn`: a world that answers reviews from a sequence;
* `verify_answers`: what is asked and what comes of it, for every sequence.
-/

namespace GrantProbe

open Program (Handler)

/-! ## The reviews of a schedule -/

/-- The review that a request asks for. -/
def Ask.review? : Ask → Option Review
  | access (.review q) => some q
  | _ => none

/-- **The reviews among requests,** in order. -/
def reviewsIn (asked : List Ask) : List Review := asked.filterMap Ask.review?

theorem reviewsIn_append (asked more : List Ask) :
    reviewsIn (asked ++ more) = reviewsIn asked ++ reviewsIn more := List.filterMap_append

/-- Copies in blocks of one length: an index falls into the block of its quotient. -/
theorem getElem?_flatMap_replicate {α β : Type} (f : α → β) {r : Nat} (hr : 0 < r) (l : List α)
    (i : Nat) : (l.flatMap fun a => List.replicate r (f a))[i]? = l[i / r]?.map f := by
  induction l generalizing i with
  | nil => rfl
  | cons a l ih =>
    rw [List.flatMap_cons]
    by_cases hi : i < r
    · rw [List.getElem?_append_left (by simpa using hi), Nat.div_eq_of_lt hi]
      simp [hi]
    · obtain ⟨j, rfl⟩ : ∃ j, i = j + r := ⟨i - r, by omega⟩
      rw [List.getElem?_append_right (by simp), List.length_replicate, Nat.add_sub_cancel, ih,
        Nat.add_div_right _ hr]
      rfl

namespace VerifierConfig

variable (c : VerifierConfig) (q : GrantQuery)

/-- **Row by row:** each group in turn, as many times as there are reviews under it. -/
def rowByRow : List Review := c.groups.flatMap fun g => List.replicate c.rounds (q.under g)

theorem reviewsIn_entry (i : Nat) : reviewsIn (c.entry q i) = [q.under (c.groupAt i)] := by
  have hsleeps (ds : List Duration) : reviewsIn (ds.map Ask.sleep) = [] := by
    induction ds with
    | nil => rfl
    | cons d rest ih => exact ih
  rw [entry, reviewsIn_append, hsleeps]
  rfl

theorem reviewsIn_schedule (n : Nat) :
    reviewsIn (c.schedule q n) = (List.range n).map fun i => q.under (c.groupAt i) := by
  induction n with
  | zero => rfl
  | succ n ih =>
    rw [schedule] at ih ⊢
    rw [List.range_succ, List.flatMap_append, reviewsIn_append, ih, List.map_append]
    congr 1
    rw [List.flatMap_cons, List.flatMap_nil, List.append_nil, reviewsIn_entry]
    rfl

theorem length_rowByRow : (c.rowByRow q).length = c.budget := by
  unfold rowByRow budget
  induction c.groups with
  | nil => rw [List.length_nil, Nat.zero_mul]; rfl
  | cons g rest ih =>
    rw [List.flatMap_cons, List.length_append, List.length_replicate, ih, List.length_cons,
      Nat.succ_mul, Nat.add_comm]

theorem div_rounds_lt {i : Nat} (hi : i < c.budget) : i / c.rounds < c.groups.length :=
  Nat.div_lt_of_lt_mul (by rw [Nat.mul_comm]; exact hi)

theorem getElem?_groups {i : Nat} (hi : i < c.budget) :
    c.groups[i / c.rounds]? = some (c.groupAt i) := by
  have hrow := c.div_rounds_lt hi
  rw [groupAt, List.getD_eq_getElem?_getD, List.getElem?_eq_getElem hrow]
  rfl

/-- **The schedule asks row by row.** -/
theorem reviewsIn_schedule_eq_take {n : Nat} (hn : n ≤ c.budget) :
    reviewsIn (c.schedule q n) = (c.rowByRow q).take n := by
  rw [reviewsIn_schedule]
  refine List.ext_getElem? fun i => ?_
  rw [List.getElem?_take, List.getElem?_map]
  by_cases hi : i < n
  · have hgroup := c.getElem?_groups (Nat.lt_of_lt_of_le hi hn)
    rw [List.getElem?_range hi, if_pos hi, rowByRow, getElem?_flatMap_replicate _ c.rounds_pos,
      hgroup]
    rfl
  · rw [if_neg hi, List.getElem?_eq_none (by simpa using hi)]
    rfl

theorem reviewsIn_schedule_budget : reviewsIn (c.schedule q c.budget) = c.rowByRow q := by
  rw [reviewsIn_schedule_eq_take c q (Nat.le_refl _), ← length_rowByRow c q, List.take_length]

end VerifierConfig

/-! ## A world that answers in turn -/

/-- A decision or an error, as the outcome of a review. -/
def answered : Except Error Decision → Outcome Decision
  | .ok d => .ok d
  | .error e => .error (.error e)

theorem isRefused_answered {a : Except Error Decision} (ha : a ≠ .ok .allowed) :
    IsRefused (answered a) := by
  rcases a with e | (_ | reason)
  · exact Or.inr ⟨e, rfl⟩
  · exact absurd rfl ha
  · exact Or.inl ⟨reason, rfl⟩

section
variable {σ : Type} (answers : Nat → Except Error Decision) (rest : Handler probe σ)

/-- **Answers in turn:** each review gets the next answer of the sequence, whatever it asks. The
rest is up to another world. -/
def answerInTurn : Handler probe (Nat × σ)
  | .access (.review _), (i, w) => (answered (answers i), (i + 1, w))
  | r, (i, w) => ((rest r w).1, (i, (rest r w).2))

/-- The first group under which a review is denied. -/
def VerifierConfig.firstDenied (c : VerifierConfig) : Option String :=
  ((List.range c.budget).find? fun i => isDenied (answered (answers i))).map c.groupAt

variable (c : VerifierConfig) (q : GrantQuery) (w : σ)

theorem fst_foldl_sleep (ds : List Duration) (v : Nat × σ) :
    (ds.foldl (fun v d => (answerInTurn answers rest (.sleep d) v).2) v).1 = v.1 := by
  induction ds generalizing v with
  | nil => rfl
  | cons d ds ih => exact ih _

/-- **Each review of the schedule takes one answer.** -/
theorem fst_worldBefore_inTurn (i : Nat) :
    (c.worldBefore (answerInTurn answers rest) q (0, w) i).1 = i := by
  induction i with
  | zero => rfl
  | succ i ih =>
    rw [VerifierConfig.worldBefore_succ, fst_foldl_sleep]
    exact congrArg (· + 1) ih

theorem reply_inTurn (i : Nat) :
    c.reply (answerInTurn answers rest) q (0, w) i = answered (answers i) := by
  have hindex := fst_worldBefore_inTurn answers rest c q w i
  exact congrArg (fun n => answered (answers n)) hindex

theorem responder_tally_inTurn :
    (c.tally (answerInTurn answers rest) q (0, w) c.budget).responder = c.firstDenied answers := by
  rw [responder_tally, VerifierConfig.firstDenied]
  simp only [reply_inTurn]

end

/-- **What a verification asks, and what comes of it,** for every sequence of answers. Up to the
first review that is allowed it follows the schedule, and it is verified under the group of that
review. If no review is allowed, the schedule runs to its end, and the policy decides. No error of a
review comes back as the result. The schedule sleeps between two reviews under one group, a delay
that starts over with each group, and nowhere else. -/
theorem verify_answers {σ : Type} (rest : Handler probe σ) (w : σ) (c : VerifierConfig)
    (hlasts : c.backoff.Lasts (c.maxRetries - 1)) (policy : VerificationPolicy) (q : GrantQuery)
    (answers : Nat → Except Error Decision) :
    (∀ n < c.budget, answers n = .ok .allowed → (∀ i < n, answers i ≠ .ok .allowed) →
      ∃ group v, c.groups[n / c.rounds]? = some group ∧
        (c.verify Probe.reviewer policy q).Runs (answerInTurn answers rest) (0, w)
          (c.schedule q (n + 1)) (.ok (.verified group (n + 1))) v ∧
        reviewsIn (c.schedule q (n + 1)) = (c.rowByRow q).take (n + 1)) ∧
    ((∀ n < c.budget, answers n ≠ .ok .allowed) →
      ∃ v, (c.verify Probe.reviewer policy q).Runs (answerInTurn answers rest) (0, w)
          (c.schedule q c.budget) (giveUp c q (c.firstDenied answers) policy) v ∧
        reviewsIn (c.schedule q c.budget) = c.rowByRow q) ∧
    (∀ e, ((c.verify Probe.reviewer policy q).exec (answerInTurn answers rest) (0, w)).1 = .error e →
      policy = .enforce ∧
        e = .error (.exhausted q.identity q.scope q.resource.text q.verb.text c.groups)) ∧
    (∀ p, c.pause (p * c.rounds) = [] ∧ ∀ k, k + 1 < c.rounds →
      ∃ d, c.backoff.delay k = .ok d ∧ c.pause (p * c.rounds + (k + 1)) = [d]) := by
  have hrefused (i : Nat) (hi : answers i ≠ .ok .allowed) :
      IsRefused (c.reply (answerInTurn answers rest) q (0, w) i) := by
    rw [reply_inTurn]
    exact isRefused_answered hi
  have hallowed (n : Nat) (hn : n < c.budget) (hfirst : answers n = .ok .allowed)
      (hbefore : ∀ i < n, answers i ≠ .ok .allowed) :=
    runs_verify_allowed c (answerInTurn answers rest) q (0, w) hlasts policy hn
      (fun i hi => hrefused i (hbefore i hi)) (by rw [reply_inTurn, hfirst]; rfl)
  have hnever (hnone : ∀ n < c.budget, answers n ≠ .ok .allowed) :=
    runs_verify_refused c (answerInTurn answers rest) q (0, w) hlasts policy
      fun i hi => hrefused i (hnone i hi)
  simp only [responder_tally_inTurn] at hnever
  refine ⟨fun n hn hfirst hbefore => ?_, fun hnone => ?_, fun e he => ?_,
    fun p => ⟨c.pause_row_zero p, fun k hk => ?_⟩⟩
  · exact ⟨c.groupAt n, _, c.getElem?_groups hn, hallowed n hn hfirst hbefore,
      c.reviewsIn_schedule_eq_take q hn⟩
  · exact ⟨_, hnever hnone, c.reviewsIn_schedule_budget q⟩
  · classical
    by_cases hsome : ∃ n, n < c.budget ∧ answers n = .ok .allowed
    · obtain ⟨hn, hfirst⟩ := Nat.find_spec hsome
      have hbefore (i : Nat) (hi : i < Nat.find hsome) : answers i ≠ .ok .allowed := fun ha =>
        Nat.find_min hsome hi ⟨Nat.lt_trans hi hn, ha⟩
      rw [(hallowed _ hn hfirst hbefore).exec] at he
      cases he
    · have hnone (n : Nat) (hn : n < c.budget) : answers n ≠ .ok .allowed := fun ha =>
        hsome ⟨n, hn, ha⟩
      rw [(hnever hnone).exec] at he
      cases policy with
      | enforce =>
        refine ⟨rfl, ?_⟩
        injection he with he
        exact he.symm
      | advisory => cases he
  · obtain ⟨d, hd⟩ := hlasts k (by have := c.maxRetries_pred; omega)
    exact ⟨d, hd, c.pause_row_succ hk hd⟩

/-- Two reviews under each of two groups. -/
def pairVerifier : VerifierConfig :=
  ⟨2, .ofSeconds 1, 1.5, ["mlflow.org", trackingGroup], .enforce⟩

/-- A denial, an error, another denial, and from then on no refusal. -/
def hesitant : Nat → Except Error Decision
  | 0 | 2 => .ok (.denied none)
  | 1 => .error (.internal "no route" "review")
  | _ => .ok .allowed

/-- Reading the experiments of a workspace. -/
def readExperiments : GrantQuery := ⟨"alice", "workspace1", .experiments, .get⟩

theorem lasts_pairVerifier : pairVerifier.backoff.Lasts 1 := by
  have hnext : (Duration.scale (.ofSeconds 1) 1.5).toOption = some (.ofMillis 1500) := by
    decide +kernel
  intro i hi
  obtain rfl | rfl : i = 0 ∨ i = 1 := by omega
  · exact ⟨_, rfl⟩
  · rcases hd : Duration.scale (.ofSeconds 1) 1.5 with p | d
    · rw [hd] at hnext
      exact absurd hnext (by simp [Except.toOption])
    · exact ⟨d, hd⟩

/-- The last review of all is the first that is allowed; when each is denied, the advisory policy
goes on without. -/
theorem pairVerifier_answers :
    pairVerifier.backoff.Lasts (pairVerifier.maxRetries - 1) ∧
    (∃ v, (pairVerifier.verify Probe.reviewer .enforce readExperiments).Runs
      (answerInTurn hesitant World.answer) (0, .fresh trackingGroup 0 true)
      (pairVerifier.schedule readExperiments 4) (.ok (.verified trackingGroup 4)) v) ∧
    (∃ v, (pairVerifier.verify Probe.reviewer .advisory readExperiments).Runs
      (answerInTurn (fun _ => .ok (.denied none)) World.answer) (0, .fresh trackingGroup 0 true)
      (pairVerifier.schedule readExperiments 4)
      (.ok (.unverified ["mlflow.org", trackingGroup] (some "mlflow.org") 4)) v) := by
  have hfound := (verify_answers World.answer (.fresh trackingGroup 0 true) pairVerifier
    lasts_pairVerifier .enforce readExperiments hesitant).1 3 (by decide) rfl (by decide)
  have hnever := (verify_answers World.answer (.fresh trackingGroup 0 true) pairVerifier
    lasts_pairVerifier .advisory readExperiments fun _ => .ok (.denied none)).2.1 fun _ _ => nofun
  obtain ⟨group, v, hgroup, hrun, -⟩ := hfound
  obtain rfl : trackingGroup = group := Option.some.inj hgroup
  obtain ⟨v', hrun', -⟩ := hnever
  exact ⟨lasts_pairVerifier, ⟨v, hrun⟩, v', hrun'⟩

end GrantProbe
