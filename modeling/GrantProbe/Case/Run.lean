import GrantProbe.Case.Action
import GrantProbe.Case.Check

/-!
# Running a case

A case is a list of steps. A step may become someone, go somewhere, act, and check. The error of an
action never leaves its step: it is classified and kept for the check. A check that does not expect a
denial is not run after a failed action; the step fails.

* `Step`, `Case`: what is run; `StepReport`, `CaseReport`: what a run that passes reports;
* `runStep`, `runSteps`, `runCase`: running, up to the first step that fails.
-/

namespace GrantProbe

/-- **A step.** -/
structure Step where
  name : String
  identity : Option IdentitySpec
  scope : Option ScopeRef
  action : Option Action
  check : Option Check

/-- A step with nothing to do. -/
def Step.named (name : String) : Step := ⟨name, none, none, none, none⟩

/-- **A case:** a named list of steps. -/
structure Case where
  name : String
  steps : List Step

/-- What became of a step's action. -/
inductive ActionOutcome where
  | skipped
  | succeeded
  | failed (code : FailureCode)
  deriving DecidableEq, Repr, Inhabited

/-- The report of a step that passed. -/
structure StepReport where
  step : String
  identity : String
  scope : String
  action : ActionOutcome
  check : Option String
  deriving DecidableEq, Repr, Inhabited

/-- The report of a case that passed. -/
structure CaseReport where
  name : String
  steps : List StepReport
  deriving DecidableEq, Repr, Inhabited

/-- The error of a step whose action failed and whose check does not expect that. -/
def unexpectedAction (action : String) (s : CaseState) : Error :=
  match s.lastError with
  | some f =>
    .unexpectedAction action s.identityName s.scope f.code.text f.message (f.details.getD "")
  | none => .unexpectedAction action s.identityName s.scope FailureCode.internalError.text "" ""

/-- Becomes who a step runs as, and goes where it runs. -/
def Step.prepare (fx : Fixture) (step : Step) : CaseTask Unit := do
  match step.identity with
  | some spec => establishIdentity fx spec
  | none => pure ()
  match step.scope with
  | some ref => useScope fx ref
  | none => pure ()

/-- Runs the action of a step and records what became of it. -/
def Step.act (fx : Fixture) (step : Step) : CaseTask ActionOutcome := do
  match step.action with
  | none => pure .skipped
  | some action =>
    match ← (action.run fx).attempt with
    | .ok () =>
      modify fun s => s.recordSuccess action.name
      pure .succeeded
    | .error e =>
      let s ← get
      set (s.recordFailure action.name e)
      pure (.failed (s.classify e).code)

/-- Runs the check of a step on the state that its action left. -/
def Step.verify (fx : Fixture) (step : Step) (outcome : ActionOutcome) :
    CaseTask (Option String) := do
  match step.check with
  | none => pure none
  | some check =>
    let s ← get
    match outcome, check.expectsDenial with
    | .failed _, false =>
      CaseTask.fail (unexpectedAction ((step.action.map Action.name).getD "") s)
    | _, _ =>
      match ← CaseTask.lift (check.test fx s) with
      | .ok () => pure (some check.name)
      | .error message => CaseTask.fail (.failedCheck step.name check.name message)

/-- **Running a step.** -/
def runStep (fx : Fixture) (step : Step) : CaseTask StepReport := do
  step.prepare fx
  let outcome ← step.act fx
  let check ← step.verify fx outcome
  let s ← get
  pure ⟨step.name, s.identityName, s.scope, outcome, check⟩

/-- Running steps, up to the first that fails. -/
def runSteps (fx : Fixture) : List Step → CaseTask (List StepReport)
  | [] => pure []
  | step :: rest => do
    let report ← runStep fx step
    let reports ← runSteps fx rest
    pure (report :: reports)

/-- **Running a case.** -/
def runCase (fx : Fixture) (c : Case) : CaseTask CaseReport := do
  let reports ← runSteps fx c.steps
  pure ⟨c.name, reports⟩

end GrantProbe
