import GrantProbe.Case.Run
import GrantProbe.Suite.Baseline
import GrantProbe.Suite.Summary

/-!
# Running a suite

Every case runs in a fresh state over the shared setting and baseline, and is torn down whether it passed
or not. An abnormal end of a case is caught, so it hides no other case.

* `caught`: a case's outcome, with what its state was at the end;
* `runOne`, `runAll`: running cases;
* `Suite`: a runner with the results so far; `Suite.seeded`, `Suite.finish`.
-/

namespace GrantProbe

/-- The failure message of an outcome, if it is a failure. -/
def failureMessage {α : Type} : Outcome α → Option String
  | .ok _ => none
  | .error (.error e) => some e.message
  | .error (.panic p) => some ("PANIC: " ++ p.message)

/-- **Catching.** The outcome of a task, whatever it is, leaving the state as it was at the end. -/
def caught {α : Type} (t : CaseTask α) : CaseTask (Outcome α) :=
  ExceptT.mk fun s => Program.bind (t.run s) fun r => .done (.ok r.1, r.2)

/-- Runs a case and tears it down, in a state of its own. -/
def runAndTearDown (fx : Fixture) (c : Case) : CaseTask (Outcome CaseReport × CleanupReport) := do
  let outcome ← caught (runCase fx c)
  let cleanup ← teardown fx
  pure (outcome, cleanup)

/-- A task on the state of a case, from a state of its own. -/
def inFreshState {α : Type} (setting : Setting) (t : CaseTask α) : Probe α :=
  ExceptT.mk <| Program.bind (t.run (CaseState.fresh setting.scopes)) fun r => .done r.1

/-- **Running one case.** -/
def runOne (fx : Fixture) (c : Case) : Probe CaseResult := do
  let start ← Task.always Probe.clock
  let (outcome, cleanup) ← inFreshState fx.setting (runAndTearDown fx c)
  let finish ← Task.always Probe.clock
  pure ⟨c.name, (failureMessage outcome).isNone, ⟨finish.nanos - start.nanos⟩,
    failureMessage outcome, cleanup.failures⟩

/-- Running cases in order. -/
def runAll (fx : Fixture) : List Case → Probe (List CaseResult)
  | [] => pure []
  | c :: rest => do
    let result ← runOne fx c
    let results ← runAll fx rest
    pure (result :: results)

/-- **A suite** under way. -/
structure Suite where
  name : String
  fixture : Fixture
  results : List CaseResult

namespace Suite

/-- A suite over a baseline that is seeded already. -/
def withBaseline (name : String) (setting : Setting) (baseline : SortedMap Baseline) : Suite :=
  ⟨name, ⟨setting, baseline⟩, []⟩

/-- A suite over a baseline that is seeded now. -/
def seeded (name : String) (setting : Setting) : Probe Suite := do
  let baseline ← seedBaseline setting
  pure (withBaseline name setting baseline)

/-- Runs one case more. -/
def run (s : Suite) (c : Case) : Probe Suite := do
  let result ← runOne s.fixture c
  pure { s with results := s.results ++ [result] }

/-- Runs cases in order. -/
def runAll (s : Suite) (cases : List Case) : Probe Suite := do
  let results ← GrantProbe.runAll s.fixture cases
  pure { s with results := s.results ++ results }

/-- Removes the baseline and hands back the summary. -/
def finish (s : Suite) : Probe SuiteSummary := do
  let _ ← removeBaseline s.fixture.setting s.fixture.baseline
  pure ⟨s.name, s.results⟩

end Suite

end GrantProbe
