import GrantProbe.Error
import GrantProbe.Text.Search

/-!
# Classified failures

The tracking service reports failures as free text. `FailureCode.ofMessage` reads the kind of a failure
off the text: the first row of `patterns` that matches decides, and a text that no row matches is an
internal error.

* `FailureCode`: the kinds, with `isPermission` and `isAuthentication`;
* `patterns`: the table, whose order matters;
* `Failure`: a kind with the text it was read from and the identity and workspace that were active.
-/

namespace GrantProbe

/-- **The kinds of failure.** -/
inductive FailureCode where
  | permissionDenied
  | unauthenticated
  | forbidden
  | authenticationFailed
  | resourceNotFound
  | resourceAlreadyExists
  | workspaceAccessDenied
  | quotaExceeded
  | invalidRequest
  | internalError
  deriving DecidableEq, Repr, Inhabited

namespace FailureCode

/-- Every kind, in declaration order. -/
def all : List FailureCode :=
  [permissionDenied, unauthenticated, forbidden, authenticationFailed, resourceNotFound,
    resourceAlreadyExists, workspaceAccessDenied, quotaExceeded, invalidRequest, internalError]

/-- The name of a kind on the wire. -/
def text : FailureCode → String
  | permissionDenied => "PERMISSION_DENIED"
  | unauthenticated => "UNAUTHENTICATED"
  | forbidden => "FORBIDDEN"
  | authenticationFailed => "AUTHENTICATION_FAILED"
  | resourceNotFound => "RESOURCE_NOT_FOUND"
  | resourceAlreadyExists => "RESOURCE_ALREADY_EXISTS"
  | workspaceAccessDenied => "WORKSPACE_ACCESS_DENIED"
  | quotaExceeded => "QUOTA_EXCEEDED"
  | invalidRequest => "INVALID_REQUEST"
  | internalError => "INTERNAL_ERROR"

/-- The caller was not allowed to act. -/
def isPermission : FailureCode → Bool
  | permissionDenied | unauthenticated | forbidden | authenticationFailed
  | workspaceAccessDenied => true
  | _ => false

/-- The credential, not the grant, was at fault. -/
def isAuthentication : FailureCode → Bool
  | unauthenticated | authenticationFailed | forbidden => true
  | _ => false

end FailureCode

/-- **A row of the classification table.** It matches a text that holds every word of one of its
groups. -/
structure Pattern where
  code : FailureCode
  anyOf : List (List String)

/-- The row matches a text that is in lower case already. -/
def Pattern.covers (p : Pattern) (lowered : List Char) : Bool :=
  p.anyOf.any fun group => group.all fun word => Text.occursIn word.toList lowered

/-- **The classification table.** A denied permission comes before the workspace rule, and a missing
resource before an invalid request. -/
def patterns : List Pattern := [
  ⟨.permissionDenied, [["permission", "denied"]]⟩,
  ⟨.unauthenticated, [["unauthenticated"]]⟩,
  ⟨.forbidden, [["forbidden"]]⟩,
  ⟨.authenticationFailed, [["authentication", "failed"]]⟩,
  ⟨.resourceNotFound, [["not found"], ["does not exist"], ["resource_does_not_exist"]]⟩,
  ⟨.resourceAlreadyExists, [["already exists"], ["duplicate"], ["resource_already_exists"]]⟩,
  ⟨.workspaceAccessDenied, [["workspace", "access"], ["workspace", "denied"]]⟩,
  ⟨.quotaExceeded, [["quota"], ["limit"]]⟩,
  ⟨.invalidRequest, [["invalid"], ["bad request"]]⟩]

/-- The kind that a text in lower case falls under. -/
def FailureCode.ofLowered (lowered : List Char) : FailureCode :=
  match patterns.find? (·.covers lowered) with
  | some p => p.code
  | none => .internalError

/-- **Classification.** The kind of failure that a text reports, whatever its letter case. -/
def FailureCode.ofMessage (message : String) : FailureCode :=
  .ofLowered (Text.lowerChars message.toList)

/-- **A classified failure:** its kind, the text it was read from, and who met it where. -/
structure Failure where
  code : FailureCode
  message : String
  details : Option String
  deriving DecidableEq, Repr, Inhabited

namespace Failure

/-- The failure that a text reports. -/
def ofMessage (message : String) : Failure :=
  ⟨.ofMessage message, message, none⟩

/-- The words that name an identity and a workspace. -/
def contextDetails (identity scope : String) : String :=
  "Context: User: " ++ identity ++ ", Workspace: " ++ scope

/-- The failure that a text reports, met by `identity` in `scope`. -/
def inContext (message identity scope : String) : Failure :=
  { ofMessage message with details := some (contextDetails identity scope) }

/-- The failure in words. -/
def display (f : Failure) : String :=
  "[" ++ f.code.text ++ "] " ++ f.message ++
    match f.details with
    | some d => " (" ++ d ++ ")"
    | none => ""

end Failure

end GrantProbe
