import Mathlib.Data.List.Basic
import GrantProbe.Case.Catalogue
import GrantProbe.Proofs.Sighting
import GrantProbe.World.Simulation

/-!
# A denial is the most recent result

The last error of a case is never cleared, so a denial that a later action has superseded is still
there when the denial check is evaluated. The check is right all the same: the record of the last
action and the last error always stem from the same action.

* `Remembers`: the state of a case is up to date with what the most recent action returned;
* `remembers_prepare`, `remembers_act`, `remembers_verify`: each part of a step keeps it up to date;
* `actionDenied_passes_iff`: the denial check passes exactly when the most recent action returned an
  error whose own text is a permission failure; `actionDenied_superseded` is a run where it is not
  the first;
* `exec_verify_actionDenied`, `runCase_of_not_isDenial`: the step and the case report as much.
-/

namespace GrantProbe

open Program (Handler)
open CaseTask (exec)

variable {σ : Type}

/-- The result is an error that reads as a permission failure. -/
def IsDenial (result : Option (Except Error Unit)) : Prop :=
  ∃ e, result = some (.error e) ∧ (FailureCode.ofMessage e.message).isPermission = true

/-- **The state is up to date** with the result of the most recent action. -/
def Remembers : Option (Except Error Unit) → CaseState → Prop
  | none, s => s.lastAction = none
  | some (.ok _), s => ∃ name, s.lastAction = some ⟨name, false⟩
  | some (.error e), s =>
    ∃ name f, s.lastAction = some ⟨name, true⟩ ∧ s.lastError = some f ∧
      f.code = FailureCode.ofMessage e.message

/-- Being up to date is about the last action and the last error alone. -/
theorem Remembers.congr {result : Option (Except Error Unit)} {s t : CaseState}
    (hs : Remembers result s) (ha : t.lastAction = s.lastAction) (he : t.lastError = s.lastError) :
    Remembers result t := by
  rcases result with _ | e | _ <;> simp only [Remembers, ha, he] at hs ⊢ <;> exact hs

/-- **The verdict on a state that is up to date.** -/
theorem Remembers.denialVerdict_iff {result : Option (Except Error Unit)} {s : CaseState}
    (hs : Remembers result s) : Check.denialVerdict s = .ok () ↔ IsDenial result := by
  rcases result with _ | e | _
  · simp only [Remembers] at hs
    simp [Check.denialVerdict, hs, IsDenial]
  · obtain ⟨name, f, ha, he, hf⟩ := hs
    by_cases hp : f.code.isPermission <;>
      simp [Check.denialVerdict, ha, he, hp, IsDenial, ← hf]
  · obtain ⟨name, ha⟩ := hs
    simp [Check.denialVerdict, ha, IsDenial]

/-! ## The parts of a step -/

theorem remembers_fresh (scopes : List String) : Remembers none (.fresh scopes) := rfl

theorem remembers_prepare {result : Option (Except Error Unit)} (fx : Fixture)
    (h : Handler probe σ) (step : Step) {p : Point σ} (hp : Remembers result p.state) :
    Remembers result (exec h (step.prepare fx) p).2.state :=
  hp.congr (keeps_prepare (f := CaseState.lastAction) (fun _ _ _ _ _ => rfl) fx step h p)
    (keeps_prepare (f := CaseState.lastError) (fun _ _ _ _ _ => rfl) fx step h p)

theorem remembers_verify {result : Option (Except Error Unit)} (fx : Fixture)
    (h : Handler probe σ) (step : Step) (outcome : ActionOutcome) {p : Point σ}
    (hp : Remembers result p.state) :
    Remembers result (exec h (step.verify fx outcome) p).2.state :=
  hp.congr (keeps_verify CaseState.lastAction fx step outcome h p)
    (keeps_verify CaseState.lastError fx step outcome h p)

/-- **An action brings the state up to date,** whatever it did to the state itself. -/
theorem remembers_of_act (fx : Fixture) (h : Handler probe σ) {step : Step} {action : Action}
    (ha : step.action = some action) {p q : Point σ} {outcome : ActionOutcome}
    (hact : exec h (step.act fx) p = (.ok outcome, q)) :
    ∃ r, step.result? fx h p = some r ∧ Remembers (some r) q.state := by
  have hres : step.result? fx h p = (exec h (action.run fx).attempt p).1.toOption := by
    rw [Step.result?, ha]
  rw [exec_act] at hact
  simp only [ha] at hact
  rw [hres]
  rcases hrun : exec h (action.run fx).attempt p with ⟨s | e | _, q₁⟩ <;>
    simp only [hrun, Prod.mk.injEq, reduceCtorEq, false_and] at hact
  · obtain ⟨-, rfl⟩ := hact
    exact ⟨.error e, rfl, action.name, q₁.state.classify e, rfl, rfl, rfl⟩
  · obtain ⟨-, rfl⟩ := hact
    exact ⟨.ok (), rfl, action.name, rfl⟩

theorem remembers_act {result : Option (Except Error Unit)} (fx : Fixture) (h : Handler probe σ)
    (step : Step) {p q : Point σ} {outcome : ActionOutcome} (hp : Remembers result p.state)
    (hact : exec h (step.act fx) p = (.ok outcome, q)) :
    Remembers ((step.result? fx h p).or result) q.state := by
  cases ha : step.action with
  | none =>
    have hres : step.result? fx h p = none := by rw [Step.result?, ha]
    rw [exec_act] at hact
    simp only [ha, Prod.mk.injEq] at hact
    obtain ⟨-, rfl⟩ := hact
    rw [hres]
    exact hp
  | some action =>
    obtain ⟨r, hres, hr⟩ := remembers_of_act fx h ha hact
    rw [hres]
    exact hr

theorem verdict?_actionDenied {fx : Fixture} {h : Handler probe σ} {step : Step}
    {outcome : ActionOutcome} {p : Point σ} (hc : step.check = some Check.actionDenied) :
    step.verdict? fx h outcome p = some (Check.denialVerdict p.state) := by
  rw [verdict?_tested hc fun _ => rfl]
  rfl

theorem exec_verify_actionDenied {fx : Fixture} {h : Handler probe σ} {step : Step} {p : Point σ}
    (hc : step.check = some Check.actionDenied) (outcome : ActionOutcome) :
    exec h (step.verify fx outcome) p =
      match Check.denialVerdict p.state with
      | .ok () => (.ok (some "action_denied"), p)
      | .error m => (.error (.error (.failedCheck step.name "action_denied" m)), p) := by
  have htest : (Check.actionDenied.test fx p.state).exec h p.world =
      (.ok (Check.denialVerdict p.state), p.world) := rfl
  rw [exec_verify_tested hc (fun _ => rfl) htest]
  rcases Check.denialVerdict p.state with m | _ <;> rfl

/-! ## The run -/

theorem recentResult?_cons (o : Sighting σ) (seen : List (Sighting σ)) :
    recentResult? (o :: seen) = (recentResult? seen).or o.result := by
  unfold recentResult?
  rw [List.filterMap_cons]
  cases o.result with
  | none => simp
  | some r => rw [List.getLast?_cons]; cases (seen.filterMap Sighting.result).getLast? <;> rfl

/-- Along a run that starts up to date with `result`, every evaluation of the denial check agrees
with the most recent result by then. The induction is on the steps. -/
theorem denial_iff_of_remembers (fx : Fixture) (h : Handler probe σ) {steps : List Step}
    {p : Point σ} {result : Option (Except Error Unit)} (hp : Remembers result p.state)
    {before after : List (Sighting σ)} {o : Sighting σ}
    (hrun : sightings fx h steps p = before ++ o :: after)
    (hc : o.step.check = some Check.actionDenied) :
    ∃ v, o.verdict = some v ∧
      (v = .ok () ↔ IsDenial ((recentResult? (before ++ [o])).or result)) := by
  induction steps generalizing p result before with
  | nil => simp [sightings] at hrun
  | cons step rest ih =>
    unfold sightings at hrun
    rcases hprep : exec h (step.prepare fx) p with ⟨e | _, start⟩
    · simp [hprep] at hrun
    have hstart : Remembers result start.state := by
      have := remembers_prepare fx h step hp
      rwa [hprep] at this
    simp only [hprep] at hrun
    rcases hact : exec h (step.act fx) start with ⟨e | outcome, q⟩
    · simp [hact] at hrun
    have hq := remembers_act fx h step hstart hact
    simp only [hact] at hrun
    cases before with
    | nil =>
      -- the check of this step
      obtain ⟨rfl, -⟩ := List.cons.inj hrun
      refine ⟨_, verdict?_actionDenied hc, ?_⟩
      rw [hq.denialVerdict_iff, List.nil_append, recentResult?_cons]
      rfl
    | cons first before =>
      -- a check further on, in a run that starts up to date with this step's result
      obtain ⟨rfl, htail⟩ := List.cons.inj hrun
      rcases hver : exec h (step.verify fx outcome) q with ⟨e | check, r⟩
      · simp [hver] at htail
      have hr : Remembers ((step.result? fx h start).or result) r.state := by
        have := remembers_verify fx h step outcome hq
        rwa [hver] at this
      simp only [hver] at htail
      obtain ⟨v, hv, hiff⟩ := ih hr htail
      refine ⟨v, hv, ?_⟩
      rw [hiff, List.cons_append, recentResult?_cons, Option.or_assoc]

/-- **A case fails with its denial check** if the most recent action was not denied when the check
was evaluated. -/
theorem runCase_of_not_isDenial (fx : Fixture) (h : Handler probe σ) (c : Case) (w : σ)
    {before after : List (Sighting σ)} {o : Sighting σ}
    (hrun : caseSightings fx h c w = before ++ o :: after)
    (hc : o.step.check = some Check.actionDenied) (hno : ¬IsDenial (recentResult? (before ++ [o]))) :
    ∃ m, (exec h (runCase fx c) ⟨.fresh fx.setting.scopes, w⟩).1 =
      .error (.error (.failedCheck o.step.name "action_denied" m)) := by
  obtain ⟨v, hv, hiff⟩ := denial_iff_of_remembers fx h (remembers_fresh _) hrun hc
  rw [Option.or_none] at hiff
  rcases v with m | _
  · have hmem : o ∈ caseSightings fx h c w := by simp [hrun]
    have hfailed := runSteps_of_failed_sighting hmem hc hv
    refine ⟨m, ?_⟩
    rw [runCase, CaseTask.exec_bind]
    rcases hsteps : exec h (runSteps fx c.steps) ⟨.fresh fx.setting.scopes, w⟩ with ⟨e | reports, q⟩
    · rw [hsteps] at hfailed
      exact congrArg Except.error (Except.error.inj hfailed)
    · rw [hsteps] at hfailed
      cases hfailed
  · exact absurd (hiff.mp rfl) hno

/-- **The denial check, whenever a run of a case evaluates it,** passes exactly when some action has
run and the most recent one, of this step or of the nearest earlier step that had one, returned an
error whose own text is a permission failure. This holds of any steps, whatever their actions and
checks do and whatever the world answers; a step whose check is the denial check always evaluates
it. -/
theorem actionDenied_passes_iff (fx : Fixture) (h : Handler probe σ) (c : Case) (w : σ)
    {before after : List (Sighting σ)} {o : Sighting σ}
    (hrun : caseSightings fx h c w = before ++ o :: after)
    (hc : o.step.check = some Check.actionDenied) :
    ∃ v, o.verdict = some v ∧ (v = .ok () ↔ IsDenial (recentResult? (before ++ [o]))) := by
  obtain ⟨v, hv, hiff⟩ := denial_iff_of_remembers fx h (remembers_fresh _) hrun hc
  rw [Option.or_none] at hiff
  exact ⟨v, hv, hiff⟩

/-- Two workspaces without a baseline. -/
def bareFixture : Fixture := ⟨⟨["left", "right"], ⟨"admin-token"⟩, .standard, "user"⟩, .empty⟩

/-- A denial, a success of another action, and only then the check. -/
def supersededDenial : Case :=
  Catalogue.grantedCase "superseded denial" ⟨[], [], none⟩ .primary
    [Catalogue.setup .createExperiment, Catalogue.setup .prepareArtifact,
      { Step.named "look back" with check := some .actionDenied }]

/-- The run of `supersededDenial` in a world that has just begun. -/
def supersededRun : List (Sighting World) :=
  caseSightings bareFixture World.answer supersededDenial (.fresh trackingGroup 0 true)

theorem map_check_supersededRun :
    supersededRun.map (·.step.check) = [none, none, some Check.actionDenied] := rfl

theorem map_isOk_supersededRun :
    supersededRun.map (fun o => o.result.map Except.isOk) = [some false, some true, none] := rfl

/-- The denial of the first step is on record, and the check of the last step goes by the second. -/
theorem actionDenied_superseded :
    ∃ denied prepared o, supersededRun = [denied, prepared] ++ [o] ∧
      o.step.check = some Check.actionDenied ∧
      denied.result.map Except.isOk = some false ∧ prepared.result.map Except.isOk = some true ∧
      ∃ v, o.verdict = some v ∧
        (v = .ok () ↔ IsDenial (recentResult? ([denied, prepared] ++ [o]))) := by
  obtain ⟨denied, prepared, o, hrun⟩ :=
    List.length_eq_three.mp (show supersededRun.length = 3 from rfl)
  have hchecks := map_check_supersededRun
  have hresults := map_isOk_supersededRun
  simp only [hrun, List.map_cons, List.map_nil, List.cons.injEq, and_true] at hchecks hresults
  exact ⟨denied, prepared, o, hrun, hchecks.2.2, hresults.1, hresults.2.1,
    actionDenied_passes_iff bareFixture World.answer supersededDenial _ hrun hchecks.2.2⟩

end GrantProbe
