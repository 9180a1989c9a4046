import GrantProbe.Http.Status
import GrantProbe.Json.Record
import GrantProbe.Text.Blank

/-!
# Failures of the tracking service

What the service says when it does not carry out a request. Its own errors are objects with a code and a
message; a gateway in front of it answers with anything, and then the status alone tells what went wrong.

* `ServiceError`, `ServiceError.shape`: the error that a body holds;
* `impliedCode?`: the code that a status implies;
* `failureText`: the wording of a failure.
-/

namespace GrantProbe

open Json (RecordShape)

/-- **An error of the service,** as far as a body holds one. -/
structure ServiceError where
  code : Option String
  message : Option String
  deriving DecidableEq, Repr, Inhabited

/-- What has been read of an error. -/
structure ServiceError.Draft where
  code : Option (Option String)
  message : Option (Option String)

/-- **Errors of the service** as they are read. -/
def ServiceError.shape : RecordShape ServiceError.Draft ServiceError where
  name := "ApiErrorBody"
  fields := [
    .of "error_code" true Draft.code (fun d v => { d with code := some v }) (.option .text),
    .of "message" true Draft.message (fun d v => { d with message := some v }) (.option .text)]
  blank := ⟨none, none⟩
  finish d := .ok ⟨d.code.join, d.message.join⟩

/-- The error that a body holds; nothing is known from a body that is none. -/
def ServiceError.ofBody (body : String) : ServiceError :=
  match ServiceError.shape.read (Json.Input.ofText body) with
  | .ok e => e
  | .error _ => ⟨none, none⟩

/-- **The code that a status implies** when the body has none. -/
def impliedCode? (status : Nat) : Option String :=
  match status with
  | 401 => some "UNAUTHENTICATED"
  | 403 => some "PERMISSION_DENIED"
  | 404 => some "RESOURCE_DOES_NOT_EXIST"
  | _ => none

/-- A status in words, behind the code that it implies. -/
def statusReason (status : Nat) : String :=
  let words := (Http.reason? status).getD "Unknown"
  match impliedCode? status with
  | some code => code ++ ": " ++ words
  | none => words

/-- **The wording of a failure:** code and message of the service, where the status stands in for a missing
code and the whole body for a body that is no error. -/
def failureText (status : Nat) (body : String) : String :=
  match ServiceError.ofBody body with
  | ⟨some code, some message⟩ => code ++ ": " ++ message
  | ⟨some code, none⟩ => code
  | ⟨none, some message⟩ => statusReason status ++ ": " ++ message
  | ⟨none, none⟩ =>
    if Text.isAllBlank body then statusReason status
    else statusReason status ++ ": " ++ Text.trim body

end GrantProbe
