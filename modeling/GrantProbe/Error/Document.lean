import GrantProbe.Error
import GrantProbe.Json.Fields

/-!
# Errors as documents

* `Error.kind`, `Error.document`: an error with the name of its cause and its wording;
* `Error.ofDocument`: the error that a description stands for;
* `resultDocument`, `textResultDocument`: a result or the error in its place.
-/

namespace GrantProbe

namespace Error

/-- The name of a cause. -/
def kind : Error → String
  | cluster .. => "Kube"
  | invalid .. => "Validation"
  | provisioning .. => "Provisioning"
  | identity .. => "Identity"
  | exhausted .. => "VerificationExhausted"
  | tracking .. => "Tracking"
  | unexpectedAction .. => "UnexpectedActionError"
  | failedCheck .. => "ValidationFailed"
  | internal .. => "Internal"

/-- The field that an error is about. -/
def field? : Error → Option String
  | invalid _ field => field
  | _ => none

/-- An error as JSON. -/
def document (e : Error) : Json :=
  .object ([("error", .text e.kind), ("message", .text e.message)] ++
    Json.entry? "field" (e.field?.map .text))

/-- **The error of a description:** a text is a failure without a context; an object names its kind. -/
def ofDocument (j : Json) : Error :=
  match j with
  | .text s => internalFailure s
  | j =>
    let status := (j.natAt? "status").getD 0
    let message := j.textAt "message"
    let who := j.textAt "identity"
    let scope := j.textAt "scope"
    match j.textAt "kind" with
    | "validation" => invalid message (j.textAt? "field")
    | "provisioning" => provisioning who scope message
    | "identity" => identity who scope message
    | "exhausted" => exhausted who scope (j.textAt "resource") (j.textAt "verb") (j.textsAt "qualifiers")
    | "tracking" => tracking (j.textAt "operation") status message
    | "unexpected" =>
      unexpectedAction (j.textAt "action") who scope (j.textAt "code") message (j.textAt "details")
    | "failed" => failedCheck (j.textAt "step") (j.textAt "validation") message
    | "kube" => cluster (.refused ⟨"Failure", message, j.textAt "reason", status⟩)
    | _ => internal message ((j.textAt? "context").getD "unknown")

end Error

/-- A value that is a success. -/
def okDocument (j : Json) : Json := .object [("ok", j)]

/-- An error that is a text. -/
def textErrorDocument (kind message : String) : Json :=
  .object [("error", .text kind), ("message", .text message)]

/-- **A result as JSON.** -/
def resultDocument {α : Type} (encode : α → Json) : Except Error α → Json
  | .ok a => okDocument (encode a)
  | .error e => e.document

/-- A result whose error is a text, as JSON. -/
def textResultDocument {α : Type} (encode : α → Json) : Except String α → Json
  | .ok a => okDocument (encode a)
  | .error m => textErrorDocument "String" m

/-- The document of nothing. -/
def unitDocument (_ : Unit) : Json := .null

end GrantProbe
