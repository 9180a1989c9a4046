import GrantProbe.Proofs.Frame

/-!
# What is seen of a run of a case

A run of a case is seen step by step: what the action of a step returned, and what its check said,
if it was evaluated at all. The sightings are read off the run itself; a step whose action never
returns, since its preparation failed or something ended abnormally, is the end of them.

* `Step.result?`, `Step.verdict?`: what an action returns and what a check says, at a point of a
  run;
* `sightings`: the run of a list of steps, as it is seen;
* `recentResult?`: what the most recent action returned;
* `verify_unchecked`, `verify_tested`, `verify_unexpected`: the three ways in which a step is
  verified; `exec_verify_tested`: the end of one whose check is evaluated;
* `fst_exec_verify`, `runSteps_of_failed_sighting`: what a check is seen to say is what its step and
  the run report;
* `act_of_mem_sightings`: a sighting is that of its step;
* `map_step_sightings_prefix`: the steps that are seen are the first ones.
-/

namespace GrantProbe

open Program (Handler)
open CaseTask (exec)

variable {σ : Type}

/-- **What is seen of a step:** where its action began, what the action returned if there is one,
and what the check said if it was evaluated. -/
structure Sighting (σ : Type) where
  step : Step
  start : Point σ
  result : Option (Except Error Unit)
  verdict : Option (Except String Unit)

/-- What the action of a step returns, if there is one and it returns. -/
def Step.result? (fx : Fixture) (h : Handler probe σ) (step : Step) (p : Point σ) :
    Option (Except Error Unit) :=
  match step.action with
  | some action => (exec h (action.run fx).attempt p).1.toOption
  | none => none

/-- What the check of a step says after an action of this outcome, if it is evaluated and answers.
-/
def Step.verdict? (fx : Fixture) (h : Handler probe σ) (step : Step) (outcome : ActionOutcome)
    (p : Point σ) : Option (Except String Unit) :=
  match step.check with
  | none => none
  | some check =>
    match outcome, check.expectsDenial with
    | .failed _, false => none
    | _, _ => ((check.test fx p.state).exec h p.world).1.toOption

/-- **The sightings of a run** of steps, in order, as far as it goes. -/
def sightings (fx : Fixture) (h : Handler probe σ) : List Step → Point σ → List (Sighting σ)
  | [], _ => []
  | step :: rest, p =>
    match exec h (step.prepare fx) p with
    | (.error _, _) => []
    | (.ok (), start) =>
      match exec h (step.act fx) start with
      | (.error _, _) => []
      | (.ok outcome, q) =>
        ⟨step, start, step.result? fx h start, step.verdict? fx h outcome q⟩ ::
          match exec h (step.verify fx outcome) q with
          | (.error _, _) => []
          | (.ok _, r) => sightings fx h rest r

/-- **What the most recent action returned,** if any action has run. -/
def recentResult? (seen : List (Sighting σ)) : Option (Except Error Unit) :=
  (seen.filterMap Sighting.result).getLast?

/-- The sightings of a case, which runs in a fresh state. -/
def caseSightings (fx : Fixture) (h : Handler probe σ) (c : Case) (w : σ) : List (Sighting σ) :=
  sightings fx h c.steps ⟨.fresh fx.setting.scopes, w⟩

theorem exec_runStep (fx : Fixture) (h : Handler probe σ) (step : Step) (p : Point σ) :
    exec h (runStep fx step) p =
      match exec h (step.prepare fx) p with
      | (.error e, q) => (.error e, q)
      | (.ok (), start) =>
        match exec h (step.act fx) start with
        | (.error e, q) => (.error e, q)
        | (.ok outcome, q) =>
          match exec h (step.verify fx outcome) q with
          | (.error e, r) => (.error e, r)
          | (.ok check, r) =>
            (.ok ⟨step.name, r.state.identityName, r.state.scope, outcome, check⟩, r) := by
  unfold runStep
  rw [CaseTask.exec_bind]
  rcases exec h (step.prepare fx) p with ⟨e | _, start⟩
  · rfl
  simp only
  rw [CaseTask.exec_bind]
  rcases exec h (step.act fx) start with ⟨e | outcome, q⟩
  · rfl
  simp only
  rw [CaseTask.exec_bind]
  rcases exec h (step.verify fx outcome) q with ⟨e | check, r⟩ <;> rfl

theorem exec_act (fx : Fixture) (h : Handler probe σ) (step : Step) (p : Point σ) :
    exec h (step.act fx) p =
      match step.action with
      | none => (.ok .skipped, p)
      | some action =>
        match exec h (action.run fx).attempt p with
        | (.error e, q) => (.error e, q)
        | (.ok (.ok ()), q) =>
            (.ok .succeeded, { q with state := q.state.recordSuccess action.name })
        | (.ok (.error e), q) =>
          (.ok (.failed (q.state.classify e).code),
            { q with state := q.state.recordFailure action.name e }) := by
  unfold Step.act
  cases step.action with
  | none => rfl
  | some action =>
    simp only
    rw [CaseTask.exec_bind]
    rcases exec h (action.run fx).attempt p with ⟨s | e | _, q⟩ <;> rfl

/-! ## The check of a step -/

/-- The action was there and failed. -/
def ActionOutcome.isFailed : ActionOutcome → Bool
  | failed _ => true
  | _ => false

def Step.conclude (step : Step) (check : Check) : Except String Unit → CaseTask (Option String)
  | .ok () => pure (some check.name)
  | .error message => CaseTask.fail (.failedCheck step.name check.name message)

section
variable {fx : Fixture} {h : Handler probe σ} {step : Step} {check : Check}
  {outcome : ActionOutcome} {p : Point σ}

theorem verify_unchecked (fx : Fixture) (hnone : step.check = none)
    (outcome : ActionOutcome) : step.verify fx outcome = pure none := by
  unfold Step.verify
  rw [hnone]

theorem verify_tested (hcheck : step.check = some check)
    (hmeets : outcome.isFailed = true → check.expectsDenial = true) :
    step.verify fx outcome =
      get >>= fun s => CaseTask.lift (check.test fx s) >>= step.conclude check := by
  unfold Step.verify
  rw [hcheck]
  rcases outcome with _ | _ | code
  · rfl
  · rfl
  · simp only [hmeets rfl]
    rfl

theorem verify_unexpected (hcheck : step.check = some check)
    (hfailed : outcome.isFailed = true) (hplain : check.expectsDenial = false) :
    step.verify fx outcome = get >>= fun s =>
      CaseTask.fail (unexpectedAction ((step.action.map Action.name).getD "") s) := by
  unfold Step.verify
  rw [hcheck]
  rcases outcome with _ | _ | code
  · cases hfailed
  · cases hfailed
  · simp only [hplain]

/-- **A check that is evaluated** decides how its step ends. -/
theorem exec_verify_tested {said : Except String Unit} {w : σ}
    (hcheck : step.check = some check)
    (hmeets : outcome.isFailed = true → check.expectsDenial = true)
    (htest : (check.test fx p.state).exec h p.world = (.ok said, w)) :
    exec h (step.verify fx outcome) p = exec h (step.conclude check said) { p with world := w } := by
  rw [verify_tested hcheck hmeets, CaseTask.exec_bind_ok (CaseTask.exec_get h p),
    CaseTask.exec_bind_ok (CaseTask.exec_lift_ok htest)]

theorem verdict?_tested (hcheck : step.check = some check)
    (hmeets : outcome.isFailed = true → check.expectsDenial = true) :
    step.verdict? fx h outcome p = ((check.test fx p.state).exec h p.world).1.toOption := by
  unfold Step.verdict?
  rw [hcheck]
  rcases outcome with _ | _ | code
  · rfl
  · rfl
  · simp only [hmeets rfl]

theorem verdict?_unexpected (hcheck : step.check = some check)
    (hfailed : outcome.isFailed = true) (hplain : check.expectsDenial = false) :
    step.verdict? fx h outcome p = none := by
  unfold Step.verdict?
  rw [hcheck]
  rcases outcome with _ | _ | code
  · cases hfailed
  · cases hfailed
  · simp only [hplain]

/-- **What a check is seen to say** is what verifying its step comes to. -/
theorem fst_exec_verify {v : Except String Unit} (hcheck : step.check = some check)
    (hv : step.verdict? fx h outcome p = some v) :
    (exec h (step.verify fx outcome) p).1 = (v.map fun _ => some check.name).mapError fun m =>
      .error (.failedCheck step.name check.name m) := by
  by_cases hmeets : outcome.isFailed = true → check.expectsDenial = true
  · rw [verdict?_tested hcheck hmeets] at hv
    rcases htest : (check.test fx p.state).exec h p.world with ⟨e | said, w⟩
    · rw [htest] at hv
      cases hv
    · rw [htest] at hv
      obtain rfl := Option.some.inj hv
      rw [exec_verify_tested hcheck hmeets htest]
      rcases said with m | _ <;> rfl
  · obtain ⟨hfailed, hplain⟩ := Classical.not_imp.mp hmeets
    rw [verdict?_unexpected hcheck hfailed (eq_false_of_ne_true hplain)] at hv
    cases hv

end

/-- **A check that is seen to fail** ends the run with its failure. By induction on the steps. -/
theorem runSteps_of_failed_sighting {fx : Fixture} {h : Handler probe σ} {steps : List Step}
    {p : Point σ} {o : Sighting σ} {check : Check} {m : String} (ho : o ∈ sightings fx h steps p)
    (hc : o.step.check = some check) (hv : o.verdict = some (.error m)) :
    (exec h (runSteps fx steps) p).1 = .error (.error (.failedCheck o.step.name check.name m)) := by
  induction steps generalizing p with
  | nil => exact absurd ho List.not_mem_nil
  | cons step rest ih =>
    unfold sightings at ho
    rw [runSteps, CaseTask.exec_bind, exec_runStep]
    rcases hprep : exec h (step.prepare fx) p with ⟨e | _, start⟩
    · simp [hprep] at ho
    simp only [hprep] at ho ⊢
    rcases hact : exec h (step.act fx) start with ⟨e | outcome, q⟩
    · simp [hact] at ho
    simp only [hact] at ho ⊢
    rcases hver : exec h (step.verify fx outcome) q with ⟨e | said, r⟩ <;> simp only [hver] at ho ⊢
    · obtain rfl := List.mem_singleton.mp ho
      have hfailed := fst_exec_verify hc hv
      rw [hver] at hfailed
      exact congrArg Except.error (Except.error.inj hfailed)
    · rcases List.mem_cons.mp ho with rfl | htail
      · have hfailed := fst_exec_verify hc hv
        rw [hver] at hfailed
        cases hfailed
      · have hrest := ih htail
        rw [CaseTask.exec_bind]
        rcases hrun : exec h (runSteps fx rest) r with ⟨e | reports, q'⟩
        · rw [hrun] at hrest
          exact hrest
        · rw [hrun] at hrest
          cases hrest

theorem act_of_mem_sightings {fx : Fixture} {h : Handler probe σ} {steps : List Step} {p : Point σ}
    {o : Sighting σ} (ho : o ∈ sightings fx h steps p) :
    ∃ outcome q, exec h (o.step.act fx) o.start = (.ok outcome, q) ∧
      o.result = o.step.result? fx h o.start ∧ o.verdict = o.step.verdict? fx h outcome q := by
  induction steps generalizing p with
  | nil => exact absurd ho List.not_mem_nil
  | cons step rest ih =>
    unfold sightings at ho
    rcases hprep : exec h (step.prepare fx) p with ⟨e | _, start⟩
    · simp [hprep] at ho
    simp only [hprep] at ho
    rcases hact : exec h (step.act fx) start with ⟨e | outcome, q⟩
    · simp [hact] at ho
    simp only [hact] at ho
    rcases List.mem_cons.mp ho with rfl | htail
    · exact ⟨outcome, q, hact, rfl, rfl⟩
    rcases hver : exec h (step.verify fx outcome) q with ⟨e | check, r⟩
    · simp [hver] at htail
    · exact ih (by simpa only [hver] using htail)

theorem map_step_sightings_prefix (fx : Fixture) (h : Handler probe σ) (steps : List Step)
    (p : Point σ) : (sightings fx h steps p).map Sighting.step <+: steps := by
  induction steps generalizing p with
  | nil => exact List.prefix_rfl
  | cons step rest ih =>
    unfold sightings
    rcases exec h (step.prepare fx) p with ⟨e | _, start⟩
    · exact List.nil_prefix
    rcases hact : exec h (step.act fx) start with ⟨e | outcome, q⟩ <;> simp only [hact]
    · exact List.nil_prefix
    rw [List.map_cons, List.cons_prefix_cons]
    rcases exec h (step.verify fx outcome) q with ⟨e | check, r⟩
    · exact ⟨rfl, List.nil_prefix⟩
    · exact ⟨rfl, ih r⟩

end GrantProbe
