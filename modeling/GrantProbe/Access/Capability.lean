import GrantProbe.Access.Verb

/-!
# Capabilities and the rules they map to

A capability is what a case asks for; its rules are what is written to the cluster for it.

* `Rule`: one access rule, with its meaning `Rule.allows`;
* `Capability`: verbs on kinds, with sub-resources listed or derived;
* `Capability.rules`: the smallest set of rules that grants the capability;
* `Capability.grantedRules`: those rules and the `bootstrapRules` that every identity receives.
-/

namespace GrantProbe

/-- The API group of the tracking service's resources. -/
def trackingGroup : String := "mlflow.kubeflow.org"

/-- The API group of roles and bindings. -/
def rbacGroup : String := "rbac.authorization.k8s.io"

/-- **An access rule:** each verb on each resource of each group. -/
structure Rule where
  groups : List String
  resources : List String
  verbs : List String
  deriving DecidableEq, Repr, Inhabited

/-- A rule allows what is in all three of its lists. -/
def Rule.allows (r : Rule) (group resource verb : String) : Bool :=
  r.groups.contains group && r.resources.contains resource && r.verbs.contains verb

/-- A list of rules allows what one of them allows. -/
def rulesAllow (rules : List Rule) (group resource verb : String) : Bool :=
  rules.any (·.allows group resource verb)

/-- **A capability:** verbs on kinds of resources. Sub-resources are derived from the kinds unless they
are listed; an empty list grants none. -/
structure Capability where
  verbs : List Verb
  resources : List ResourceKind
  subresources : Option (List String)
  deriving DecidableEq, Repr, Inhabited

namespace Capability

/-- The capability of a preset, with derived sub-resources. -/
def ofPreset (preset : RolePreset) (resources : List ResourceKind) : Capability :=
  ⟨preset.verbs, resources, none⟩

/-- The capability grants the verb. -/
def grants (c : Capability) (v : Verb) : Bool := c.verbs.contains v

/-- **The verb to prove enforcement with:** `delete` if it is granted, else the first granted verb in
canonical order. -/
def verificationVerb? (c : Capability) : Option Verb :=
  if c.grants .delete then some .delete else Verb.all.find? c.grants

/-- **The sub-resources a capability covers:** the listed names, else those that the kinds declare when
`create` is granted. -/
def subresourceNames (c : Capability) : List String :=
  match c.subresources with
  | some names => names.eraseDups
  | none =>
    if c.grants .create then c.resources.eraseDups.flatMap ResourceKind.subresources else []

/-- The rule on the kinds themselves. A rule without verbs or resources is never written. -/
def mainRules (c : Capability) : List Rule :=
  if c.verbs.isEmpty || c.resources.isEmpty then []
  else
    [⟨[trackingGroup], c.resources.eraseDups.map ResourceKind.text, c.verbs.eraseDups.map Verb.text⟩]

/-- The rule on the sub-resources, which are used by creating. -/
def subresourceRules (c : Capability) : List Rule :=
  if c.subresourceNames.isEmpty then []
  else [⟨[trackingGroup], c.subresourceNames, [Verb.create.text]⟩]

/-- **The rules that grant a capability.** -/
def rules (c : Capability) : List Rule := c.mainRules ++ c.subresourceRules

/-- The capability in words. -/
def display (c : Capability) : String :=
  "[" ++ ",".intercalate (c.verbs.map Verb.text) ++ "] on [" ++
    ",".intercalate (c.resources.map ResourceKind.text) ++ "]" ++
    match c.subresources with
    | some names => " subresources [" ++ ",".intercalate names ++ "]"
    | none => ""

end Capability

/-- **The rules every identity receives:** reading the core objects it needs to authenticate, and the
objects that govern it. -/
def bootstrapRules : List Rule := [
  ⟨[""], ["namespaces", "serviceaccounts", "secrets"], ["get", "list"]⟩,
  ⟨[rbacGroup], ["roles", "rolebindings"], ["get", "list"]⟩]

/-- The rules written for a capability: its own, then those of every identity. -/
def Capability.grantedRules (c : Capability) : List Rule := c.rules ++ bootstrapRules

end GrantProbe
