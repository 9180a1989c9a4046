import GrantProbe.Access.Call

/-!
# Grants

A grant is one role and one binding per identity and scope.

* `roleName`, `bindingName`: the names of the two objects;
* `grant`: writes them, the role first; objects that are there already are left as they are;
* `revoke`: removes them, the binding first, and reports what could not be removed.
-/

namespace GrantProbe

/-- The role granted to an identity. -/
def roleName (identity : String) : String := identity ++ "-role"

/-- The binding that grants it. -/
def bindingName (identity : String) : String := identity ++ "-binding"

variable {S : Signature}

/-- A deletion whose error becomes a message. -/
def reportFailure (what : String) (t : Task S Unit) : Task S (List String) := do
  match ← t.attempt with
  | .ok () => pure []
  | .error e => pure [what ++ ": " ++ e.message]

/-- **Granting.** Writes the rules of the capability and the binding to the identity. That it succeeds
means that the objects exist, not that they are enforced yet. -/
def grant (cluster : AccessControl S) (identity scope : String) (capability : Capability) :
    Task S Unit := do
  let role := roleName identity
  let binding := bindingName identity
  let _ ← (cluster (.createRole scope role capability.grantedRules)).retitle fun e =>
    .provisioning identity scope ("role " ++ role ++ ": " ++ e.message)
  let _ ← (cluster (.createBinding scope binding role identity)).retitle fun e =>
    .provisioning identity scope ("binding " ++ binding ++ ": " ++ e.message)

/-- **Revoking.** Attempts both deletions whatever comes of them; one message for each that failed. -/
def revoke (cluster : AccessControl S) (identity scope : String) : Task S (List String) := do
  let binding := bindingName identity
  let role := roleName identity
  let first ← reportFailure ("delete rolebinding " ++ scope ++ "/" ++ binding)
    (cluster (.deleteBinding scope binding))
  let second ← reportFailure ("delete role " ++ scope ++ "/" ++ role)
    (cluster (.deleteRole scope role))
  pure (first ++ second)

end GrantProbe
