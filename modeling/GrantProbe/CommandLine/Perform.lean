import GrantProbe.Access.Document
import GrantProbe.Case.Catalogue
import GrantProbe.CommandLine.Command
import GrantProbe.Json.Printer
import GrantProbe.Suite.Run
import GrantProbe.Wire.Probe

/-!
# Carrying out commands

* `CommandFailure`: why a command does not succeed;
* `Command.perform`: what a command prints, as a program over the wire.
-/

namespace GrantProbe

/-- **Why a command does not succeed.** -/
inductive CommandFailure where
  /-- No case has the text in its name. -/
  | noCases (filter : String)
  | failed (e : Error)
  /-- Cases failed. -/
  | casesFailed (summary : String)
  deriving Repr, Inhabited

def CommandFailure.message : CommandFailure → String
  | noCases filter => "no cases match filter " ++ Text.quoted filter
  | failed e => e.message
  | casesFailed summary => summary

/-- Lines, each with its end. -/
def printed (lines : List String) : String := String.join (lines.map (· ++ "\n"))

/-- The rules of a request, as JSON over several lines. -/
def RulesRequest.output (r : RulesRequest) : String :=
  printed [(Json.list (r.rules.map Rule.document)).pretty]

/-- The name of the suite of a run. -/
def suiteName : String := "mlflow rbac"

/-- **A run of cases,** over a baseline that is seeded for it and removed after it. -/
def runSuite (setting : Setting) (cases : List Case) : Probe (Except String Unit) := do
  let suite ← Suite.seeded suiteName setting
  let suite ← suite.runAll cases
  return (← suite.finish).result

/-- Runs the cases of a request, or lists them. -/
def RunRequest.perform (r : RunRequest) : Wire (Except CommandFailure String) := do
  let cases := filterCases allCases r.filter
  if cases.isEmpty then pure (.error (.noCases (r.filter.getD "")))
  else if r.listOnly then pure (.ok (printed (cases.map (·.name))))
  else
    let (setting, endpoint) ← r.config.connect
    match ← endpoint.carry (runSuite setting cases) with
    | .ok () => pure (.ok "")
    | .error summary => pure (.error (.casesFailed summary))

/-- What is printed of a verdict. -/
def verdictLines (q : GrantQuery) : Verdict → List String
  | .verified group attempts =>
    [q.identity ++ " may " ++ q.verb.text ++ " " ++ q.resource.text ++ " in " ++ q.scope ++ " (group " ++
      (if group.isEmpty then "<core>" else group) ++ ", " ++ toString attempts ++ " attempt(s))"]
  | .unverified .. => []

/-- Verifies a grant. Whatever policy is asked for, a grant that cannot be verified is a failure. -/
def VerifyRequest.perform (r : VerifyRequest) : Wire String := do
  connectCluster r.kubeconfig
  let verdict ← r.verifier.verify Wire.reviewer .enforce r.query
  pure (printed (verdictLines r.query verdict))

/-- **Carrying out a command:** what it prints, or why it does not succeed. -/
def Command.perform (c : Command) : Wire (Except CommandFailure String) := do
  let attempt ← Task.attempt <|
    match c with
    | .rules r => pure (.ok r.output)
    | .run r => r.perform
    | .verify r => do return .ok (← r.perform)
  match attempt with
  | .ok result => pure result
  | .error e => pure (.error (.failed e))

end GrantProbe
