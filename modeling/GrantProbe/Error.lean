import GrantProbe.Text.Quoted

/-!
# Errors

What can go wrong while identities are provisioned, grants verified and cases run. A constructor names a
cause and carries who and what was involved; the wording is in `Error.message` alone.

* `ClusterFailure`: what the cluster's API reported, or why it could not be asked;
* `Error`: every cause, with `Error.isTestFailure` for a rejected expectation;
* `Panic`, `Stop`: an abnormal end, which is no error and is caught by the suite runner alone.
-/

namespace GrantProbe

/-- The body of a refusal by the cluster's API. -/
structure StatusReply where
  status : String
  message : String
  reason : String
  code : Nat
  deriving DecidableEq, Repr, Inhabited

/-- The reply with every field spelled out. -/
def StatusReply.detail (r : StatusReply) : String :=
  "ErrorResponse \x7b status: " ++ Text.quoted r.status ++ ", message: " ++ Text.quoted r.message ++
    ", reason: " ++ Text.quoted r.reason ++ ", code: " ++ toString r.code ++ " \x7d"

/-- **A failed call to the cluster.** -/
inductive ClusterFailure where
  /-- The API answered with a refusal. -/
  | refused (reply : StatusReply)
  /-- No answer was received. -/
  | unreachable (cause : String)
  /-- The request could not be formed, and nothing was sent. -/
  | malformed (cause : String)
  /-- The answer is not text. -/
  | notText (cause : String)
  /-- The answer is not the object that was asked for. -/
  | unreadable (cause : String)
  deriving DecidableEq, Repr, Inhabited

/-- The wording of a failed call. -/
def ClusterFailure.message : ClusterFailure → String
  | refused r => "ApiError: " ++ r.message ++ ": " ++ r.reason ++ " (" ++ r.detail ++ ")"
  | unreachable cause => "ServiceError: " ++ cause
  | malformed cause => "Failed to build request: " ++ cause
  | notText cause => "UTF-8 Error: " ++ cause
  | unreadable cause => "Error deserializing response: " ++ cause

/-- The API refused the call with the given status code. -/
def ClusterFailure.hasCode (code : Nat) : ClusterFailure → Bool
  | refused r => r.code == code
  | _ => false

/-- The object was there already. -/
def ClusterFailure.isConflict (f : ClusterFailure) : Bool := f.hasCode 409

/-- The object is missing. -/
def ClusterFailure.isNotFound (f : ClusterFailure) : Bool := f.hasCode 404

/-- **The causes of failure.** -/
inductive Error where
  /-- A call to the cluster failed. -/
  | cluster (failure : ClusterFailure)
  /-- An input is unusable; the offending field is named if it is known. -/
  | invalid (message : String) (field : Option String)
  /-- A role or binding could not be created. -/
  | provisioning (identity scope message : String)
  /-- An identity could not be created, or no credential was issued for it. -/
  | identity (identity scope message : String)
  /-- No API group allowed the request within the budget of reviews. -/
  | exhausted (identity scope resource verb : String) (groups : List String)
  /-- The tracking service rejected a request; the status is 0 when none was received. -/
  | tracking (operation : String) (status : Nat) (message : String)
  /-- An action failed in a step that did not expect a denial. -/
  | unexpectedAction (action identity scope code message details : String)
  /-- A check rejected the state that its step left. -/
  | failedCheck (step check message : String)
  /-- An operation failed for any other cause. -/
  | internal (message context : String)
  deriving DecidableEq, Repr, Inhabited

namespace Error

/-- An unusable input whose field is not known. -/
def invalidInput (message : String) : Error := .invalid message none

/-- An unusable value of a known field. -/
def invalidField (field message : String) : Error := .invalid message (some field)

/-- A failure without a known context. -/
def internalFailure (message : String) : Error := .internal message "unknown"

/-- **The wording of an error.** -/
def message : Error → String
  | cluster f => "kubernetes error: " ++ f.message
  | invalid m _ => "validation error: " ++ m
  | provisioning i s m => "provisioning error for " ++ i ++ " in " ++ s ++ ": " ++ m
  | identity i s m => "identity error for " ++ i ++ " in " ++ s ++ ": " ++ m
  | exhausted i s r v groups =>
    "authorization for " ++ i ++ " to " ++ v ++ " " ++ r ++ " in " ++ s ++
      " could not be verified; tried API groups " ++ Text.quotedList groups
  | tracking op status m =>
    "tracking service error [" ++ toString status ++ "] during " ++ op ++ ": " ++ m
  | unexpectedAction a i s c m d =>
    "action '" ++ a ++ "' failed unexpectedly for identity " ++ i ++ " in scope " ++ s ++ ": [" ++
      c ++ "] " ++ m ++ " (" ++ d ++ ")"
  | failedCheck step check m =>
    "validation '" ++ check ++ "' failed in step '" ++ step ++ "': " ++ m
  | internal m context => "internal error [" ++ context ++ "]: " ++ m

/-- The error is a rejected expectation, not an operation that failed. -/
def isTestFailure : Error → Bool
  | unexpectedAction .. => true
  | failedCheck .. => true
  | _ => false

end Error

/-- **An abnormal end** of a computation, with the text it carries, if it carries any. -/
inductive Panic where
  | text (message : String)
  | noText
  deriving DecidableEq, Repr, Inhabited

/-- The text of a panic. -/
def Panic.message : Panic → String
  | text m => m
  | noText => "unknown panic"

/-- **Why a computation stopped short:** an error that its caller may handle, or a panic. -/
inductive Stop where
  | error (e : Error)
  | panic (p : Panic)
  deriving DecidableEq, Repr, Inhabited

/-- The result of a computation that may stop short. -/
abbrev Outcome (α : Type) : Type := Except Stop α

end GrantProbe
