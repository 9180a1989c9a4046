import GrantProbe.Access.Capability
import GrantProbe.Task

/-!
# Calls to the cluster's access control

* `Creation`, `Decision`, `Review`: what is asked and answered;
* `AccessCall`: the five calls, with the type of the answer to each.
-/

namespace GrantProbe

/-- The result of creating an object that may be there already. -/
inductive Creation where
  | created | existed
  deriving DecidableEq, Repr, Inhabited

/-- **The authorizer's decision** on a review. -/
inductive Decision where
  | allowed
  | denied (reason : Option String)
  deriving DecidableEq, Repr, Inhabited

/-- **An access review:** may this identity do this here, under this API group? The empty group is the
core group. -/
structure Review where
  identity : String
  scope : String
  resource : ResourceKind
  verb : Verb
  group : String
  deriving DecidableEq, Repr, Inhabited

/-- The user name that the cluster gives to a service account. -/
def serviceAccountUser (scope name : String) : String :=
  "system:serviceaccount:" ++ scope ++ ":" ++ name

/-- The user that a review is about. -/
def Review.user (r : Review) : String := serviceAccountUser r.scope r.identity

/-- **The calls** that write and review access. -/
inductive AccessCall where
  | createRole (scope role : String) (rules : List Rule)
  | createBinding (scope binding role identity : String)
  | deleteRole (scope role : String)
  | deleteBinding (scope binding : String)
  | review (query : Review)
  deriving DecidableEq, Repr, Inhabited

/-- The answer to a call that succeeds. Deleting what is missing succeeds. -/
abbrev AccessCall.Answer : AccessCall → Type
  | createRole .. => Creation
  | createBinding .. => Creation
  | deleteRole .. => Unit
  | deleteBinding .. => Unit
  | review _ => Decision

/-- A way to make the calls from programs over a signature. -/
abbrev AccessControl (S : Signature) : Type := (c : AccessCall) → Task S c.Answer

end GrantProbe
