import GrantProbe.Error
import GrantProbe.Text.Blank
import GrantProbe.Text.Case

/-!
# Verbs and resource kinds

What a rule can allow, and on what.

* `Verb`, `ResourceKind`: the vocabularies, in canonical order in `all`;
* `Verb.ofText?`, `ResourceKind.ofText?`: reading a name, blanks around it and letter case aside;
* `ResourceKind.subresources`: the names that a kind needs a rule of their own for;
* `RolePreset`: named bundles of verbs.
-/

namespace GrantProbe

/-- **A verb** of an access rule. -/
inductive Verb where
  | get | list | create | update | delete
  deriving DecidableEq, Repr, Inhabited

/-- **A kind of resource** of the tracking service. -/
inductive ResourceKind where
  | experiments
  | registeredModels
  | jobs
  | datasets
  | gatewaySecrets
  | gatewayEndpoints
  | gatewayModelDefinitions
  deriving DecidableEq, Repr, Inhabited

/-- A name with the blanks around it removed and its ASCII letters in lower case. -/
def normalName (s : String) : String :=
  Text.asciiLower (Text.trim s)

namespace Verb

/-- Every verb, in canonical order. -/
def all : List Verb := [get, list, create, update, delete]

/-- The verb as a rule writes it. -/
def text : Verb → String
  | get => "get"
  | list => "list"
  | create => "create"
  | update => "update"
  | delete => "delete"

/-- Reads a verb. -/
def ofText (s : String) : Except Error Verb :=
  match all.find? (·.text == normalName s) with
  | some v => .ok v
  | none => .error (.invalidField "verb" ("unknown verb '" ++ s ++ "'"))

end Verb

namespace ResourceKind

/-- Every kind, in canonical order. -/
def all : List ResourceKind :=
  [experiments, registeredModels, jobs, datasets, gatewaySecrets, gatewayEndpoints,
    gatewayModelDefinitions]

/-- The kind as a rule writes it. -/
def text : ResourceKind → String
  | experiments => "experiments"
  | registeredModels => "registeredmodels"
  | jobs => "jobs"
  | datasets => "datasets"
  | gatewaySecrets => "gatewaysecrets"
  | gatewayEndpoints => "gatewayendpoints"
  | gatewayModelDefinitions => "gatewaymodeldefinitions"

/-- The sub-resources of a kind that need a rule of their own. -/
def subresources : ResourceKind → List String
  | gatewaySecrets => ["gatewaysecrets/use"]
  | gatewayEndpoints => ["gatewayendpoints/use"]
  | gatewayModelDefinitions => ["gatewaymodeldefinitions/use"]
  | _ => []

/-- Reads a kind. -/
def ofText (s : String) : Except Error ResourceKind :=
  match all.find? (·.text == normalName s) with
  | some k => .ok k
  | none => .error (.invalidField "resource" ("unknown resource kind '" ++ s ++ "'"))

end ResourceKind

/-- **A named bundle of verbs.** -/
inductive RolePreset where
  | read | edit | use | manage
  deriving DecidableEq, Repr, Inhabited

namespace RolePreset

/-- Every preset. -/
def all : List RolePreset := [read, edit, use, manage]

/-- The name of a preset. -/
def text : RolePreset → String
  | read => "read"
  | edit => "edit"
  | use => "use"
  | manage => "manage"

/-- The preset of a name, in exactly this letter case. -/
def ofText? (s : String) : Option RolePreset := all.find? (·.text == s)

/-- The verbs of a preset. -/
def verbs : RolePreset → List Verb
  | read => [.get, .list]
  | use => [.create]
  | edit | manage => Verb.all

end RolePreset

end GrantProbe
