import GrantProbe.Decimal.Layout
import GrantProbe.Duration
import GrantProbe.Text.Case

/-!
# The summary of a suite

* `CaseResult`, `SuiteSummary`: what became of every case, in the order of the run;
* `SuiteSummary.lines`: the table that is logged;
* `SuiteSummary.result`: success, or the names of the cases that failed.
-/

namespace GrantProbe

/-- **What became of a case.** Problems of its cleanup do not make it fail. -/
structure CaseResult where
  name : String
  passed : Bool
  duration : Duration
  error : Option String
  cleanupFailures : List String
  deriving DecidableEq, Repr, Inhabited

/-- **What became of a suite.** -/
structure SuiteSummary where
  suite : String
  results : List CaseResult
  deriving DecidableEq, Repr, Inhabited

/-- A text filled up with spaces to a width in characters. -/
def padRight (width : Nat) (s : String) : String :=
  s ++ String.ofList (List.replicate (width - s.length) ' ')

/-- A duration in seconds with one decimal place. -/
def Duration.shown (d : Duration) : String := Decimal.oneDecimal d.seconds ++ "s"

/-- The lines of the table for one case; the text of an error is cut to 200 characters. -/
def CaseResult.lines (r : CaseResult) : List String :=
  ["  " ++ (if r.passed then "PASS" else "FAIL") ++ "  " ++ padRight 60 r.name ++ " " ++
      r.duration.shown] ++
    (r.error.toList.map fun e => "        -> " ++ String.ofList (e.toList.take 200)) ++
    r.cleanupFailures.map fun c => "        cleanup: " ++ c

namespace SuiteSummary

/-- The number of cases that passed. -/
def passed (s : SuiteSummary) : Nat := (s.results.filter (·.passed)).length

/-- The number of cases that failed. -/
def failed (s : SuiteSummary) : Nat := (s.results.filter (!·.passed)).length

/-- A line across the table. -/
def rule (c : Char) : String := String.ofList (List.replicate 40 c)

/-- **The table of a suite.** -/
def lines (s : SuiteSummary) : List String :=
  [rule '=', "  " ++ Text.upper s.suite, rule '='] ++
    s.results.flatMap CaseResult.lines ++
    [rule '-',
      "  " ++ toString s.passed ++ " passed, " ++ toString s.failed ++ " failed (" ++
        (Duration.sum (s.results.map (·.duration))).shown ++ " total)",
      rule '=']

/-- **The result of a suite:** a message with the number and the names of the cases that failed, if any
did. -/
def result (s : SuiteSummary) : Except String Unit :=
  let failures := (s.results.filter (!·.passed)).map (·.name)
  if failures.isEmpty then .ok ()
  else
    .error (toString failures.length ++ " case(s) failed in " ++ s.suite ++ ": " ++
      ", ".intercalate failures)

end SuiteSummary

end GrantProbe
