import GrantProbe.Access.Call
import GrantProbe.Identity.Credential
import GrantProbe.Retry

/-!
# Issuing identities

An identity is a service account with a token that was issued for it. An account whose token cannot be
issued is deleted again, so a failed creation leaves nothing behind.

* `IdentityCall`: what the rest of the program asks for; `AccountCall`: what the cluster offers;
* `createIdentity`, `deleteIdentity`: the first in terms of the second.
-/

namespace GrantProbe

/-- **Calls for identities.** -/
inductive IdentityCall where
  | create (name scope : String)
  | delete (name scope : String)
  deriving DecidableEq, Repr, Inhabited

/-- The answer to a call that succeeds. -/
abbrev IdentityCall.Answer : IdentityCall → Type
  | create .. => Identity
  | delete .. => Unit

/-- **Calls for service accounts.** Deleting a missing account succeeds. -/
inductive AccountCall where
  | create (name scope : String)
  | requestToken (name scope : String)
  | delete (name scope : String)
  deriving DecidableEq, Repr, Inhabited

/-- The answer to a call that succeeds. -/
abbrev AccountCall.Answer : AccountCall → Type
  | create .. => Creation
  | requestToken .. => String
  | delete .. => Unit

variable {S : Signature} {δ : Type}

/-- What issuing an identity needs of the world: service accounts, and the pace of token requests. -/
structure Accounts (S : Signature) (δ : Type) where
  call : (c : AccountCall) → Task S c.Answer
  pace : Pace S δ

/-- The attempts at a token that follow the first. -/
def moreTokenRequests : Nat := RetryConfig.tokenRequest.maxAttempts - 1

/-- A task whose errors are kept apart from its abnormal ends, to be retried. -/
def Task.retryable {α : Type} (t : Task S α) : ExceptT Panic (Program S) (Except Error α) :=
  ExceptT.mk <| Program.bind t.run fun
    | .ok a => .done (.ok (.ok a))
    | .error (.error e) => .done (.ok (.error e))
    | .error (.panic p) => .done (.error p)

/-- The result of a retry, as a task. -/
def Task.ofRetry {α : Type} (t : ExceptT Panic (Program S) (Except Error α)) : Task S α :=
  ExceptT.mk <| Program.bind t.run fun
    | .ok (.ok a) => .done (.ok a)
    | .ok (.error e) => .done (.error (.error e))
    | .error p => .done (.error (.panic p))

/-- **A token that is a credential.** The request is repeated when it fails; a token that is malformed
is not asked for again. -/
def issueCredential (world : Accounts S δ) (name scope : String) : Task S Credential := do
  let request := (world.call (.requestToken name scope)).retryable
  let token ← (Task.ofRetry (retryUpTo world.pace request moreTokenRequests world.pace.first)).retitle
    fun e => .identity name scope ("token request failed: " ++ e.message)
  match Credential.issued token with
  | .ok credential => pure credential
  | .error reason => Task.fail (.identity name scope reason)

/-- **Creating an identity.** -/
def createIdentity (world : Accounts S δ) (name scope : String) : Task S Identity := do
  let _ ← (world.call (.create name scope)).retitle fun e =>
    .identity name scope ("failed to create service account: " ++ e.message)
  match ← (issueCredential world name scope).attempt with
  | .ok credential => pure ⟨name, scope, credential⟩
  | .error e =>
    let _ ← (world.call (.delete name scope)).attempt
    Task.fail e

/-- Deleting an identity. -/
def deleteIdentity (world : Accounts S δ) (name scope : String) : Task S Unit :=
  world.call (.delete name scope)

/-- Calls for identities, answered with service accounts. -/
def Accounts.identities (world : Accounts S δ) : (c : IdentityCall) → Task S c.Answer
  | .create name scope => createIdentity world name scope
  | .delete name scope => deleteIdentity world name scope

end GrantProbe
