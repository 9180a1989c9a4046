import GrantProbe.Proofs.Cleanup.Tidy
import GrantProbe.Proofs.Sighting
import GrantProbe.Proofs.Transcript
import GrantProbe.World.Simulation

/-!
# The rules of a run

A step passes in one way and fails in four. The rules say so without the executor: each has the end
of a step, and the requests it made on the way, from the ends of its parts. A run of a case is what
the rules derive, and it makes no request but theirs, so nothing of a step runs after one that
failed.

* `Check.Answers`: a check whose test does not fail itself; `answers_of_mem`;
* `Step.Enters`, `Step.Acts`, `Step.Accepts`: the parts of a step;
* `Step.Passes`, `Step.Fails`: the rules of a step; `runs_runStep_ok_iff`, `runs_runStep_error_iff`;
* `StepsPass`: steps that pass in turn; `runs_runSteps_ok_iff`, `runs_runSteps_error_iff`;
* `runSteps_append`: steps in two parts; `runCase_follows_rules`: a case.
-/

namespace GrantProbe

open Program (Handler)
open CaseTask (exec dialogue)

/-! ## Checks that answer -/

/-- **A check answers:** it accepts the state or rejects it with a message. -/
def Check.Answers (c : Check) : Prop := ∀ fx s, (c.test fx s).Infallible

theorem infallible_asking (s : CaseState) (call : TrackingCall)
    (test : Except Error call.Answer → Except String Unit) :
    (Check.asking s call test).Infallible := by
  unfold Check.asking
  split
  · exact Task.infallible_pure _
  · exact (Task.infallible_attempt _).bind fun _ => Task.infallible_pure _

/-- **Every check of the catalogue answers.** -/
theorem answers_of_mem {c : Check} (hc : c ∈ allChecks) : c.Answers := by
  intro fx s
  have hverdict (r : Except String Unit) : (Check.verdict r).Infallible := Task.infallible_pure r
  exact test_of_mem (P := fun t => t.Infallible) hverdict
    (fun call test _ => infallible_asking s call test) hc fx

/-! ## The parts of a step -/

section
variable {σ : Type} (fx : Fixture) (h : Handler probe σ)

/-- **A step has been set up:** its identity is established, and then its scope is active. -/
inductive Step.Enters (step : Step) (p : Point σ) : List (Exchange probe) → Point σ → Prop
  | intro {B G : List (Exchange probe)} {q r : Point σ}
    (hbecome : (step.become fx).Runs h p B (.ok ()) q) (hgo : (step.go fx).Runs h q G (.ok ()) r) :
    Step.Enters step p (B ++ G) r

/-- **The action of a step,** which comes to an end whether it fails or not. -/
inductive Step.Acts (step : Step) (p : Point σ) :
    List (Exchange probe) → ActionOutcome → Point σ → Prop
  | skipped (hnone : step.action = none) : Step.Acts step p [] .skipped p
  | succeeded {a : Action} {A : List (Exchange probe)} {q : Point σ} (ha : step.action = some a)
    (hrun : (a.run fx).Runs h p A (.ok ()) q) :
    Step.Acts step p A .succeeded { q with state := q.state.recordSuccess a.name }
  | failed {a : Action} {A : List (Exchange probe)} {e : Error} {q : Point σ}
    (ha : step.action = some a) (hrun : (a.run fx).Runs h p A (.error (.error e)) q) :
    Step.Acts step p A (.failed (FailureCode.ofMessage e.message))
      { q with state := q.state.recordFailure a.name e }

/-- **A check is evaluated** on the state that is there, and this comes of it. After an action that
failed only a check that expects it is. -/
structure Step.Tests (step : Step) (check : Check) (outcome : ActionOutcome) (p : Point σ)
    (V : List (Exchange probe)) (verdict : Except String Unit) (q : Point σ) : Prop where
  has : step.check = some check
  meets : outcome.isFailed = true → check.expectsDenial = true
  run : (CaseTask.lift (check.test fx p.state)).Runs h p V (.ok verdict) q

/-- **The check of a step,** if it has one, accepts the state. -/
inductive Step.Accepts (step : Step) (outcome : ActionOutcome) (p : Point σ) :
    List (Exchange probe) → Option String → Point σ → Prop
  | unchecked (hnone : step.check = none) : Step.Accepts step outcome p [] none p
  | accepted {check : Check} {V : List (Exchange probe)} {q : Point σ}
    (htest : step.Tests fx h check outcome p V (.ok ()) q) :
    Step.Accepts step outcome p V (some check.name) q

/-! ## The rules of a step -/

/-- **A step passes:** it is set up, its action comes to an end, and its check accepts. -/
inductive Step.Passes (step : Step) (p : Point σ) :
    List (Exchange probe) → StepReport → Point σ → Prop
  | intro {S A V : List (Exchange probe)} {outcome : ActionOutcome} {check : Option String}
    {p₁ p₂ q : Point σ} (henter : step.Enters fx h p S p₁) (hact : step.Acts fx h p₁ A outcome p₂)
    (haccept : step.Accepts fx h outcome p₂ V check q) :
    Step.Passes step p (S ++ (A ++ V))
      ⟨step.name, q.state.identityName, q.state.scope, outcome, check⟩ q

/-- **A step fails** in one of four ways: no identity, no scope, an action that should not have
failed, or a check that rejects. -/
inductive Step.Fails (step : Step) (p : Point σ) : List (Exchange probe) → Error → Point σ → Prop
  | identity {B : List (Exchange probe)} {e : Error} {q : Point σ}
    (hbecome : (step.become fx).Runs h p B (.error (.error e)) q) : Step.Fails step p B e q
  | scope {B G : List (Exchange probe)} {e : Error} {p₁ q : Point σ}
    (hbecome : (step.become fx).Runs h p B (.ok ()) p₁)
    (hgo : (step.go fx).Runs h p₁ G (.error (.error e)) q) : Step.Fails step p (B ++ G) e q
  | action {S A : List (Exchange probe)} {a : Action} {check : Check} {e : Error} {p₁ q : Point σ}
    (henter : step.Enters fx h p S p₁) (ha : step.action = some a)
    (hrun : (a.run fx).Runs h p₁ A (.error (.error e)) q) (hcheck : step.check = some check)
    (hplain : check.expectsDenial = false) :
    Step.Fails step p (S ++ A)
      (.unexpectedAction a.name q.state.identityName q.state.scope
        (FailureCode.ofMessage e.message).text e.message
        (Failure.contextDetails q.state.identityName q.state.scope))
      { q with state := q.state.recordFailure a.name e }
  | check {S A V : List (Exchange probe)} {outcome : ActionOutcome} {check : Check}
    {message : String} {p₁ p₂ q : Point σ} (henter : step.Enters fx h p S p₁)
    (hact : step.Acts fx h p₁ A outcome p₂)
    (htest : step.Tests fx h check outcome p₂ V (.error message) q) :
    Step.Fails step p (S ++ (A ++ V)) (.failedCheck step.name check.name message) q

/-- **Steps pass,** one after the other. -/
inductive StepsPass :
    List Step → Point σ → List (Exchange probe) → List StepReport → Point σ → Prop
  | nil (p : Point σ) : StepsPass [] p [] [] p
  | cons {step : Step} {rest : List Step} {p q r : Point σ} {D E : List (Exchange probe)}
    {report : StepReport} {reports : List StepReport} (hstep : step.Passes fx h p D report q)
    (hrest : StepsPass rest q E reports r) :
    StepsPass (step :: rest) p (D ++ E) (report :: reports) r

end

section
variable {σ : Type} {fx : Fixture} {h : Handler probe σ} {step : Step} {p q : Point σ}
  {D : List (Exchange probe)}

theorem runs_prepare_ok_iff :
    (step.prepare fx).Runs h p D (.ok ()) q ↔ step.Enters fx h p D q := by
  rw [prepare_eq, CaseTask.runs_bind_ok_iff]
  constructor
  · rintro ⟨⟨⟩, B, r, G, hbecome, hgo, rfl⟩
    exact .intro hbecome hgo
  · rintro ⟨hbecome, hgo⟩
    exact ⟨(), _, _, _, hbecome, hgo, rfl⟩

theorem dialogue_act : dialogue h (step.act fx) p =
    match step.action with
    | none => []
    | some a => dialogue h (a.run fx) p := by
  unfold Step.act
  cases step.action with
  | none => rfl
  | some a =>
    simp only
    rw [CaseTask.dialogue_bind, CaseTask.dialogue_attempt]
    rcases exec h (a.run fx).attempt p with ⟨s | e | _, q⟩ <;> exact List.append_nil _

theorem runs_act_ok_iff {outcome : ActionOutcome} :
    (step.act fx).Runs h p D (.ok outcome) q ↔ step.Acts fx h p D outcome q := by
  constructor
  · rintro ⟨hexec, rfl⟩
    rw [exec_act] at hexec
    rw [dialogue_act]
    cases ha : step.action with
    | none =>
      rw [ha] at hexec
      cases hexec
      exact .skipped ha
    | some a =>
      simp only [ha, CaseTask.exec_attempt] at hexec
      rcases hrun : exec h (a.run fx) p with ⟨(e | x) | _, r⟩ <;> rw [hrun] at hexec <;> cases hexec
      · exact .failed ha ⟨hrun, rfl⟩
      · exact .succeeded ha ⟨hrun, rfl⟩
  · intro hact
    cases hact with
    | skipped hnone => exact ⟨by rw [exec_act, hnone], by rw [dialogue_act, hnone]⟩
    | succeeded ha hrun =>
      refine ⟨?_, by rw [dialogue_act, ha]; exact hrun.dialogue⟩
      rw [exec_act, ha]
      simp only [CaseTask.exec_attempt_ok hrun.exec]
    | failed ha hrun =>
      refine ⟨?_, by rw [dialogue_act, ha]; exact hrun.dialogue⟩
      rw [exec_act, ha]
      simp only [CaseTask.exec_attempt_error hrun.exec]
      rfl

/-- **The error of an action never leaves its step.** -/
theorem exec_act_ne_error (e : Error) : exec h (step.act fx) p ≠ (.error (.error e), q) := by
  rw [exec_act]
  cases step.action with
  | none => nofun
  | some a =>
    simp only [CaseTask.exec_attempt]
    rcases exec h (a.run fx) p with ⟨(e | x) | _, r⟩ <;> nofun

theorem runs_verify_tested_iff {check : Check} {outcome : ActionOutcome} {o : Outcome (Option String)}
    (hcheck : step.check = some check)
    (hmeets : outcome.isFailed = true → check.expectsDenial = true) :
    (step.verify fx outcome).Runs h p D o q ↔
      (CaseTask.lift (check.test fx p.state) >>= step.conclude check).Runs h p D o q := by
  rw [verify_tested hcheck hmeets]
  have hget := CaseTask.exec_get h p
  constructor
  · rintro ⟨hexec, hdialogue⟩
    rw [CaseTask.exec_bind_ok hget] at hexec
    rw [CaseTask.dialogue_bind_ok hget] at hdialogue
    exact ⟨hexec, hdialogue⟩
  · rintro ⟨hexec, hdialogue⟩
    exact ⟨(CaseTask.exec_bind_ok hget _).trans hexec,
      (CaseTask.dialogue_bind_ok hget _).trans hdialogue⟩

theorem runs_verify_ok_iff {outcome : ActionOutcome} {name : Option String} :
    (step.verify fx outcome).Runs h p D (.ok name) q ↔ step.Accepts fx h outcome p D name q := by
  constructor
  · intro hrun
    rcases hcheck : step.check with _ | check
    · rw [verify_unchecked fx hcheck] at hrun
      obtain ⟨hexec, rfl⟩ := hrun
      cases hexec
      exact .unchecked hcheck
    · by_cases hmeets : outcome.isFailed = true → check.expectsDenial = true
      · rw [runs_verify_tested_iff hcheck hmeets, CaseTask.runs_bind_ok_iff] at hrun
        obtain ⟨verdict, V, r, C, htest, ⟨hexec, rfl⟩, rfl⟩ := hrun
        rcases verdict with message | _ <;> cases hexec
        rw [Step.conclude, CaseTask.dialogue_pure, List.append_nil]
        exact .accepted ⟨hcheck, hmeets, htest⟩
      · obtain ⟨hfailed, hplain⟩ := Classical.not_imp.mp hmeets
        rw [verify_unexpected hcheck hfailed (eq_false_of_ne_true hplain)] at hrun
        cases hrun.exec
  · intro haccept
    cases haccept with
    | unchecked hnone =>
      rw [verify_unchecked fx hnone]
      exact ⟨rfl, rfl⟩
    | accepted htest =>
      rename_i check
      rw [runs_verify_tested_iff htest.has htest.meets]
      have hpass : (step.conclude check (.ok ())).Runs h q [] (.ok (some check.name)) q := ⟨rfl, rfl⟩
      exact htest.run.bind_silent hpass

/-- **A check that is there fails its step** in two ways: it is not evaluated at all, or it rejects
the state. -/
theorem runs_verify_error_iff {outcome : ActionOutcome} {e : Error}
    (hanswers : ∀ check, step.check = some check → check.Answers) :
    (step.verify fx outcome).Runs h p D (.error (.error e)) q ↔
      (∃ check, step.check = some check ∧ outcome.isFailed = true ∧ check.expectsDenial = false ∧
        D = [] ∧ e = unexpectedAction ((step.action.map Action.name).getD "") p.state ∧ p = q) ∨
      ∃ check message, step.Tests fx h check outcome p D (.error message) q ∧
        e = .failedCheck step.name check.name message := by
  constructor
  · intro hrun
    rcases hcheck : step.check with _ | check
    · rw [verify_unchecked fx hcheck] at hrun
      cases hrun.exec
    by_cases hmeets : outcome.isFailed = true → check.expectsDenial = true
    · right
      rw [runs_verify_tested_iff hcheck hmeets, CaseTask.runs_bind_error_iff] at hrun
      rcases hrun with ⟨hexec, -⟩ | ⟨verdict, V, r, C, htest, ⟨hexec, rfl⟩, rfl⟩
      · rw [CaseTask.exec_lift] at hexec
        rcases hr : (check.test fx p.state).exec h p.world with ⟨s | verdict, w⟩ <;>
          rw [hr] at hexec <;> cases hexec
        exact absurd hr (hanswers check hcheck fx p.state h p.world w e)
      · rcases verdict with message | _ <;> cases hexec
        refine ⟨check, message, ⟨hcheck, hmeets, ?_⟩, rfl⟩
        rw [Step.conclude]
        exact (List.append_nil V).symm ▸ htest
    · left
      obtain ⟨hfailed, hplain⟩ := Classical.not_imp.mp hmeets
      have hplain := eq_false_of_ne_true hplain
      rw [verify_unexpected hcheck hfailed hplain] at hrun
      obtain ⟨hexec, rfl⟩ := hrun
      cases hexec
      exact ⟨check, rfl, hfailed, hplain, rfl, rfl, rfl⟩
  · rintro (⟨check, hcheck, hfailed, hplain, rfl, rfl, rfl⟩ | ⟨check, message, htest, rfl⟩)
    · rw [verify_unexpected hcheck hfailed hplain]
      exact ⟨rfl, rfl⟩
    · rw [runs_verify_tested_iff htest.has htest.meets]
      have hfail : (step.conclude check (.error message)).Runs h q []
          (.error (.error (.failedCheck step.name check.name message))) q := ⟨rfl, rfl⟩
      exact htest.run.bind_silent hfail

def Step.report (step : Step) (outcome : ActionOutcome) (check : Option String) :
    CaseTask StepReport :=
  get >>= fun s => pure ⟨step.name, s.identityName, s.scope, outcome, check⟩

theorem runStep_parts (fx : Fixture) (step : Step) :
    runStep fx step = step.prepare fx >>= fun _ => step.act fx >>= fun outcome =>
      step.verify fx outcome >>= step.report outcome := rfl

theorem runs_report {outcome : ActionOutcome} {check : Option String} :
    (step.report outcome check).Runs h p []
      (.ok ⟨step.name, p.state.identityName, p.state.scope, outcome, check⟩) p := ⟨rfl, rfl⟩

/-- **A step that passes,** by the rule. -/
theorem runs_runStep_ok_iff {report : StepReport} :
    (runStep fx step).Runs h p D (.ok report) q ↔ step.Passes fx h p D report q := by
  rw [runStep_parts]
  constructor
  · intro hrun
    obtain ⟨⟨⟩, S, p₁, D₁, hprepare, hrun₁, rfl⟩ := CaseTask.runs_bind_ok_iff.mp hrun
    obtain ⟨outcome, A, p₂, D₂, hact, hrun₂, rfl⟩ := CaseTask.runs_bind_ok_iff.mp hrun₁
    obtain ⟨check, V, p₃, D₃, hverify, ⟨hexec, rfl⟩, rfl⟩ := CaseTask.runs_bind_ok_iff.mp hrun₂
    cases hexec
    rw [runs_report.dialogue, List.append_nil]
    exact .intro (runs_prepare_ok_iff.mp hprepare) (runs_act_ok_iff.mp hact)
      (runs_verify_ok_iff.mp hverify)
  · rintro ⟨henter, hact, haccept⟩
    have hverify := runs_verify_ok_iff.mpr haccept
    exact (runs_prepare_ok_iff.mpr henter).bind_ok
      ((runs_act_ok_iff.mpr hact).bind_ok (hverify.bind_silent runs_report))

theorem runs_prepare_error_iff {e : Stop} : (step.prepare fx).Runs h p D (.error e) q ↔
    (step.become fx).Runs h p D (.error e) q ∨ ∃ B p₁ G, (step.become fx).Runs h p B (.ok ()) p₁ ∧
      (step.go fx).Runs h p₁ G (.error e) q ∧ D = B ++ G := by
  rw [prepare_eq, CaseTask.runs_bind_error_iff]
  refine or_congr_right ⟨?_, ?_⟩
  · rintro ⟨⟨⟩, B, p₁, G, hbecome, hgo, rfl⟩
    exact ⟨B, p₁, G, hbecome, hgo, rfl⟩
  · rintro ⟨B, p₁, G, hbecome, hgo, rfl⟩
    exact ⟨(), B, p₁, G, hbecome, hgo, rfl⟩

/-- **A step that fails,** by one of the rules. -/
theorem runs_runStep_error_iff {e : Error}
    (hanswers : ∀ check, step.check = some check → check.Answers) :
    (runStep fx step).Runs h p D (.error (.error e)) q ↔ step.Fails fx h p D e q := by
  rw [runStep_parts]
  constructor
  · intro hrun
    rcases CaseTask.runs_bind_error_iff.mp hrun with
      hprepare | ⟨⟨⟩, S, p₁, D₁, hprepare, hrun₁, rfl⟩
    · rcases runs_prepare_error_iff.mp hprepare with hbecome | ⟨B, p₁, G, hbecome, hgo, rfl⟩
      · exact .identity hbecome
      · exact .scope hbecome hgo
    have henter := runs_prepare_ok_iff.mp hprepare
    rcases CaseTask.runs_bind_error_iff.mp hrun₁ with
      hact | ⟨outcome, A, p₂, D₂, hact, hrun₂, rfl⟩
    · exact absurd hact.exec (exec_act_ne_error e)
    have hacts := runs_act_ok_iff.mp hact
    rcases CaseTask.runs_bind_error_iff.mp hrun₂ with
      hverify | ⟨check, V, p₃, D₃, -, ⟨hexec, -⟩, -⟩
    · rcases (runs_verify_error_iff hanswers).mp hverify with
        ⟨check, hcheck, hfailed, hplain, rfl, rfl, rfl⟩ | ⟨check, message, htest, rfl⟩
      · -- The check is not evaluated: the action was there, and failed.
        cases hacts with
        | skipped => cases hfailed
        | succeeded => cases hfailed
        | failed ha hfail =>
          have hunexpected := Step.Fails.action henter ha hfail hcheck hplain
          rw [ha, List.append_nil]
          exact hunexpected
      · exact .check henter hacts htest
    · cases hexec
  · intro hfails
    cases hfails with
    | identity hbecome => exact (runs_prepare_error_iff.mpr (Or.inl hbecome)).bind_error
    | scope hbecome hgo =>
      exact (runs_prepare_error_iff.mpr (Or.inr ⟨_, _, _, hbecome, hgo, rfl⟩)).bind_error
    | action henter ha hrun hcheck hplain =>
      refine (runs_prepare_ok_iff.mpr henter).bind_ok ?_
      refine (runs_act_ok_iff.mpr (.failed ha hrun)).bind_silent (CaseTask.Runs.bind_error ?_)
      rw [verify_unexpected hcheck rfl hplain, ha]
      exact ⟨rfl, rfl⟩
    | check henter hact htest =>
      have hverify := (runs_verify_error_iff hanswers).mpr (Or.inr ⟨_, _, htest, rfl⟩)
      exact (runs_prepare_ok_iff.mpr henter).bind_ok
        ((runs_act_ok_iff.mpr hact).bind_ok hverify.bind_error)

/-! ## The rules of a case -/

theorem runs_runSteps_ok_iff {steps : List Step} {reports : List StepReport} :
    (runSteps fx steps).Runs h p D (.ok reports) q ↔ StepsPass fx h steps p D reports q := by
  induction steps generalizing p D reports with
  | nil =>
    constructor
    · rintro ⟨hexec, rfl⟩
      cases hexec
      exact .nil p
    · rintro ⟨⟩
      exact CaseTask.runs_pure []
  | cons step rest ih =>
    unfold runSteps
    constructor
    · intro hrun
      obtain ⟨report, D₁, p₁, D₂, hstep, hrun₁, rfl⟩ := CaseTask.runs_bind_ok_iff.mp hrun
      obtain ⟨others, E, p₂, F, hrest, ⟨hexec, rfl⟩, rfl⟩ := CaseTask.runs_bind_ok_iff.mp hrun₁
      cases hexec
      rw [CaseTask.dialogue_pure, List.append_nil]
      exact .cons (runs_runStep_ok_iff.mp hstep) (ih.mp hrest)
    · intro hpass
      cases hpass with
      | cons hstep hrest =>
        refine (runs_runStep_ok_iff.mpr hstep).bind_ok ?_
        exact (ih.mpr hrest).bind_silent (CaseTask.runs_pure _)

/-- **Steps that stop short** stop at the first step that does, and make no request after it. -/
theorem runs_runSteps_error_iff {steps : List Step} {e : Stop} :
    (runSteps fx steps).Runs h p D (.error e) q ↔
      ∃ before step after D₁ reports r D₂, steps = before ++ step :: after ∧
        StepsPass fx h before p D₁ reports r ∧ (runStep fx step).Runs h r D₂ (.error e) q ∧
        D = D₁ ++ D₂ := by
  induction steps generalizing p D with
  | nil =>
    constructor
    · rintro ⟨hexec, -⟩
      cases hexec
    · rintro ⟨before, step, after, -, -, -, -, hsteps, -⟩
      simp at hsteps
  | cons first rest ih =>
    unfold runSteps
    constructor
    · intro hrun
      rcases CaseTask.runs_bind_error_iff.mp hrun with
        hstep | ⟨report, D₁, p₁, D₂, hstep, hrun₁, rfl⟩
      · exact ⟨[], first, rest, [], [], p, D, rfl, .nil p, hstep, rfl⟩
      rcases CaseTask.runs_bind_error_iff.mp hrun₁ with
        hrest | ⟨others, E, p₂, F, -, ⟨hexec, -⟩, -⟩
      · obtain ⟨before, step, after, E, reports, r, F, rfl, hbefore, hfail, rfl⟩ := ih.mp hrest
        exact ⟨first :: before, step, after, D₁ ++ E, report :: reports, r, F, rfl,
          .cons (runs_runStep_ok_iff.mp hstep) hbefore, hfail, (List.append_assoc ..).symm⟩
      · cases hexec
    · rintro ⟨before, step, after, D₁, reports, r, D₂, hsteps, hbefore, hfail, rfl⟩
      cases hbefore with
      | nil =>
        obtain ⟨rfl, rfl⟩ := List.cons.inj hsteps
        exact hfail.bind_error
      | cons hfirst hbefore =>
        obtain ⟨rfl, rfl⟩ := List.cons.inj hsteps
        have hrest := ih.mpr ⟨_, step, after, _, _, r, D₂, rfl, hbefore, hfail, rfl⟩
        rw [List.append_assoc]
        exact (runs_runStep_ok_iff.mpr hfirst).bind_ok hrest.bind_error

theorem Step.Passes.report_step {report : StepReport} (hpass : step.Passes fx h p D report q) :
    report.step = step.name := by
  cases hpass
  rfl

theorem StepsPass.map_step {steps : List Step} {reports : List StepReport}
    (hpass : StepsPass fx h steps p D reports q) :
    reports.map StepReport.step = steps.map Step.name := by
  induction hpass with
  | nil => rfl
  | cons hstep _ ih => rw [List.map_cons, List.map_cons, hstep.report_step, ih]

/-- **Steps in two parts:** the second part runs on what the first leaves, if that passes, and the
reports are put together. The induction is on the first part. -/
theorem runSteps_append (fx : Fixture) (xs ys : List Step) :
    runSteps fx (xs ++ ys) = runSteps fx xs >>= fun first => runSteps fx ys >>= fun second =>
      pure (first ++ second) := by
  induction xs with
  | nil => simp [runSteps]
  | cons step rest ih => simp [runSteps, ih]

/-- **A case follows the rules,** whatever its actions and checks are and wherever it starts. It
passes, with one report for each step, exactly when its steps pass in turn. It fails exactly when
steps pass up to one that fails, with the error of that step; and its requests are those of these
steps, so nothing runs after a failure. An abnormal end comes in the same way. Steps in two parts
run one part after the other. -/
theorem runCase_follows_rules (fx : Fixture) (h : Handler probe σ) (c : Case)
    (hanswers : ∀ step ∈ c.steps, ∀ check, step.check = some check → check.Answers) (p : Point σ) :
    (∀ D report q, (runCase fx c).Runs h p D (.ok report) q ↔
      ∃ reports, report = ⟨c.name, reports⟩ ∧
        reports.map StepReport.step = c.steps.map Step.name ∧
        StepsPass fx h c.steps p D reports q) ∧
    (∀ D e q, (runCase fx c).Runs h p D (.error (.error e)) q ↔
      ∃ before step after D₁ reports r D₂, c.steps = before ++ step :: after ∧
        StepsPass fx h before p D₁ reports r ∧ step.Fails fx h r D₂ e q ∧ D = D₁ ++ D₂) ∧
    (∀ D x q, (runCase fx c).Runs h p D (.error (.panic x)) q ↔
      ∃ before step after D₁ reports r D₂, c.steps = before ++ step :: after ∧
        StepsPass fx h before p D₁ reports r ∧
        (runStep fx step).Runs h r D₂ (.error (.panic x)) q ∧ D = D₁ ++ D₂) ∧
    ∀ xs ys, runSteps fx (xs ++ ys) = runSteps fx xs >>= fun first =>
      runSteps fx ys >>= fun second => pure (first ++ second) := by
  have hstop (D : List (Exchange probe)) (e : Stop) (q : Point σ) :
      (runCase fx c).Runs h p D (.error e) q ↔ (runSteps fx c.steps).Runs h p D (.error e) q := by
    refine CaseTask.runs_bind_error_iff.trans (or_iff_left ?_)
    rintro ⟨reports, D₁, r, D₂, -, ⟨hexec, -⟩, -⟩
    cases hexec
  refine ⟨fun D report q => ?passes, fun D e q => ?fails, fun D x q => ?panics, runSteps_append fx⟩
  case passes =>
    refine CaseTask.runs_bind_ok_iff.trans ⟨?_, ?_⟩
    · rintro ⟨reports, D₁, r, D₂, hsteps, ⟨hexec, rfl⟩, rfl⟩
      cases hexec
      have hpass := runs_runSteps_ok_iff.mp hsteps
      exact ⟨reports, rfl, hpass.map_step, (List.append_nil D₁).symm ▸ hpass⟩
    · rintro ⟨reports, rfl, -, hpass⟩
      exact ⟨reports, D, q, [], runs_runSteps_ok_iff.mpr hpass, CaseTask.runs_pure _,
        (List.append_nil D).symm⟩
  case fails =>
    refine (hstop D _ q).trans (runs_runSteps_error_iff.trans ⟨?_, ?_⟩)
    · rintro ⟨before, step, after, D₁, reports, r, D₂, hc, hbefore, hfail, rfl⟩
      have hstep := hanswers step (hc ▸ List.mem_append_right before List.mem_cons_self)
      exact ⟨before, step, after, D₁, reports, r, D₂, hc, hbefore,
        (runs_runStep_error_iff hstep).mp hfail, rfl⟩
    · rintro ⟨before, step, after, D₁, reports, r, D₂, hc, hbefore, hfail, rfl⟩
      have hstep := hanswers step (hc ▸ List.mem_append_right before List.mem_cons_self)
      exact ⟨before, step, after, D₁, reports, r, D₂, hc, hbefore,
        (runs_runStep_error_iff hstep).mpr hfail, rfl⟩
  case panics => exact (hstop D _ q).trans runs_runSteps_error_iff

end

/-! ## A stranger -/

/-- One workspace, without a baseline. -/
def strangerFixture : Fixture :=
  ⟨⟨["workspace1"], ⟨"admin-token"⟩, .standard, "test-user"⟩, .empty⟩

/-- A case that acts as nobody. Only its second step minds. -/
def strangerCase : Case :=
  ⟨"stranger",
    [⟨"model", none, none, some .createRegisteredModel, none⟩,
      ⟨"experiment", none, none, some .createExperiment, some .experimentCreated⟩,
      ⟨"again", none, none, some .createRegisteredModel, some .modelCreated⟩]⟩

/-- The stranger stops at the second step, with the error of its action. -/
theorem stranger_stops :
    (∀ step ∈ strangerCase.steps, ∀ check, step.check = some check → check.Answers) ∧
    ∃ before step after D₁ reports r D₂ q, strangerCase.steps = before ++ step :: after ∧
      StepsPass strangerFixture World.answer before
        (strangerFixture.opening (.fresh trackingGroup 0 true)) D₁ reports r ∧
      step.Fails strangerFixture World.answer r D₂
        (.unexpectedAction "create_experiment" "<none>" "workspace1" "INTERNAL_ERROR"
          "validation error: no active identity; establish one before acting"
          "Context: User: <none>, Workspace: workspace1") q := by
  have hanswers : ∀ step ∈ strangerCase.steps, ∀ check, step.check = some check →
      check.Answers := by
    intro step hstep check hcheck
    have hall : strangerCase.steps.Forall fun s => ∀ c, s.check = some c → c ∈ allChecks := by
      simp [strangerCase, allChecks]
    exact answers_of_mem (List.forall_iff_forall_mem.mp hall step hstep check hcheck)
  have herror : (exec World.answer (runCase strangerFixture strangerCase)
      (strangerFixture.opening (.fresh trackingGroup 0 true))).1 = .error (.error
        (.unexpectedAction "create_experiment" "<none>" "workspace1" "INTERNAL_ERROR"
          "validation error: no active identity; establish one before acting"
          "Context: User: <none>, Workspace: workspace1")) := by
    decide +kernel
  have hself := CaseTask.runs_self World.answer (runCase strangerFixture strangerCase)
    (strangerFixture.opening (.fresh trackingGroup 0 true))
  rw [herror] at hself
  obtain ⟨-, hfails, -⟩ := runCase_follows_rules strangerFixture World.answer strangerCase hanswers
    (strangerFixture.opening (.fresh trackingGroup 0 true))
  obtain ⟨before, step, after, D₁, reports, r, D₂, hsteps, hbefore, hfail, -⟩ :=
    (hfails _ _ _).mp hself
  exact ⟨hanswers, before, step, after, D₁, reports, r, D₂, _, hsteps, hbefore, hfail⟩

end GrantProbe
