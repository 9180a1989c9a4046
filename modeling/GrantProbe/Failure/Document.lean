import GrantProbe.Failure
import GrantProbe.Json.Fields
import GrantProbe.Json.Record

/-!
# Failures as documents

* `Failure.document`, `Failure.shape`: how a classified failure is written and read;
* `FailureCode.reader`: a kind of failure, by its name;
* `Failure.report`: a failure with everything that is known about it.
-/

namespace GrantProbe

open Json (Reader RecordShape required)

/-- A failure as JSON. -/
def Failure.document (f : Failure) : Json :=
  .object [("code", .text f.code.text), ("message", .text f.message), ("details", .textOrNull f.details)]

/-- Reads a kind of failure. -/
def FailureCode.reader : Reader FailureCode := .variant (all.map fun c => (c.text, c))

/-- What has been read of a failure. -/
structure Failure.Draft where
  code : Option FailureCode
  message : Option String
  details : Option (Option String)

/-- **Failures** as they are read. The details may be left out of an object, but not of a list. -/
def Failure.shape : RecordShape Failure.Draft Failure where
  name := "ClassifiedError"
  fields := [
    .of "code" false Draft.code (fun d v => { d with code := some v }) FailureCode.reader,
    .of "message" false Draft.message (fun d v => { d with message := some v }) .text,
    .of "details" false Draft.details (fun d v => { d with details := some v }) (.option .text)]
  blank := ⟨none, none, none⟩
  finish d := do
    let code ← required "code" d.code
    let message ← required "message" d.message
    return ⟨code, message, d.details.join⟩

/-- **A failure with everything that is known about it.** -/
def Failure.report (f : Failure) : Json := .object [
  ("code", .text f.code.text),
  ("display", .text f.display),
  ("details", .textOrNull f.details),
  ("permission", .boolean f.code.isPermission),
  ("authentication", .boolean f.code.isAuthentication),
  ("envelope", .object [("error", f.document)])]

end GrantProbe
