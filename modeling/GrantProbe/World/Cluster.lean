import GrantProbe.Access.Call
import GrantProbe.Identity.Issue

/-!
# A cluster

A cluster that stores roles, bindings and accounts, and answers access reviews from them. What it has stored
may take effect later: it denies a number of reviews first.

* `Cluster`, with `Cluster.role?` and `Cluster.allows`;
* `Cluster.access`, `Cluster.identity`: its answers to the calls.
-/

namespace GrantProbe

/-- A stored role. -/
structure StoredRole where
  scope : String
  name : String
  rules : List Rule
  deriving DecidableEq, Repr, Inhabited

/-- A stored binding: it grants a role of its scope to a subject. -/
structure StoredBinding where
  scope : String
  name : String
  role : String
  subject : String
  deriving DecidableEq, Repr, Inhabited

/-- A stored account. -/
structure Account where
  name : String
  scope : String
  deriving DecidableEq, Repr, Inhabited

/-- **A cluster.** It answers reviews under the group `group` alone, and denies the next `lag` of them. -/
structure Cluster where
  group : String
  lag : Nat
  roles : List StoredRole
  bindings : List StoredBinding
  accounts : List Account
  deriving Inhabited

namespace Cluster

/-- A cluster with nothing stored. -/
def empty (group : String) (lag : Nat) : Cluster := ⟨group, lag, [], [], []⟩

/-- The rules of a role. -/
def role? (c : Cluster) (scope name : String) : Option (List Rule) :=
  (c.roles.find? fun r => r.scope == scope && r.name == name).map StoredRole.rules

/-- There is a binding of this name. -/
def hasBinding (c : Cluster) (scope name : String) : Bool :=
  c.bindings.any fun b => b.scope == scope && b.name == name

/-- **What the stored objects allow:** some binding of the scope gives the identity a role with a rule on
the verb and the resource. -/
def allows (c : Cluster) (identity scope resource verb : String) : Bool :=
  c.bindings.any fun b =>
    b.scope == scope && b.subject == identity &&
      ((c.role? scope b.role).any fun rules => rulesAllow rules trackingGroup resource verb)

/-- The decision on a review once everything stored is in effect. -/
def decide (c : Cluster) (q : Review) : Decision :=
  if q.group == c.group && c.allows q.identity q.scope q.resource.text q.verb.text then .allowed
  else .denied (some "no RBAC policy matched")

/-- **Answering a review.** -/
def review (c : Cluster) (q : Review) : Decision × Cluster :=
  match c.lag with
  | 0 => (c.decide q, c)
  | lag + 1 => (.denied none, { c with lag := lag })

/-- **The answers to calls for access.** An object that is there already is left as it is. -/
def access (c : Cluster) : (call : AccessCall) → call.Answer × Cluster
  | .createRole scope role rules =>
    if (c.role? scope role).isSome then (.existed, c)
    else (.created, { c with roles := c.roles ++ [⟨scope, role, rules⟩] })
  | .createBinding scope binding role identity =>
    if c.hasBinding scope binding then (.existed, c)
    else (.created, { c with bindings := c.bindings ++ [⟨scope, binding, role, identity⟩] })
  | .deleteRole scope role =>
    ((), { c with roles := c.roles.filter fun r => !(r.scope == scope && r.name == role) })
  | .deleteBinding scope binding =>
    ((), { c with bindings := c.bindings.filter fun b => !(b.scope == scope && b.name == binding) })
  | .review q => c.review q

/-- The credential of an account. -/
def tokenFor (name : String) : Credential := ⟨"token-for-" ++ name⟩

/-- **The answers to calls for identities.** -/
def identity (c : Cluster) : (call : IdentityCall) → call.Answer × Cluster
  | .create name scope =>
    (⟨name, scope, tokenFor name⟩, { c with accounts := c.accounts ++ [⟨name, scope⟩] })
  | .delete name scope =>
    ((), { c with accounts := c.accounts.filter fun a => !(a.name == name && a.scope == scope) })

end Cluster

end GrantProbe
