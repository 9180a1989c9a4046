import GrantProbe.Access.Verification
import GrantProbe.Json.Fields
import GrantProbe.Json.Typed

/-!
# Access rules as documents

* `Verb.reader`, `ResourceKind.reader`: the vocabularies as they are read;
* `ResourceKind.documentName`: kinds have names of their own in documents;
* `Rule.document`: a rule as the cluster writes it; `Rule.line`: a rule on one line;
* `Capability.ofDocument`, `VerifierConfig.ofDocument`: what descriptions stand for;
* `Verdict.document`: the verdict of a verification.
-/

namespace GrantProbe

open Json (Reader)

/-- Reads a verb, in exactly the case in which rules write it. -/
def Verb.reader : Reader Verb := .variant (all.map fun v => (v.text, v))

/-- The name of a kind in documents. -/
def ResourceKind.documentName : ResourceKind → String
  | experiments => "Experiments"
  | registeredModels => "RegisteredModels"
  | jobs => "Jobs"
  | datasets => "Datasets"
  | gatewaySecrets => "GatewaySecrets"
  | gatewayEndpoints => "GatewayEndpoints"
  | gatewayModelDefinitions => "GatewayModelDefinitions"

/-- Reads a kind. -/
def ResourceKind.reader : Reader ResourceKind := .variant (all.map fun k => (k.documentName, k))

/-- A rule as JSON. -/
def Rule.document (r : Rule) : Json :=
  .object [("apiGroups", .texts r.groups), ("resources", .texts r.resources), ("verbs", .texts r.verbs)]

/-- A rule on one line: its groups, resources and verbs. -/
def Rule.line (r : Rule) : String :=
  "|".intercalate [",".intercalate r.groups, ",".intercalate r.resources, ",".intercalate r.verbs]

/-- The verbs of a description: those of a preset, or the listed ones. -/
def verbsOfDocument (j : Json) : Except Error (List Verb) :=
  match j.textAt? "role" with
  | some role =>
    match RolePreset.ofText? role with
    | some preset => .ok preset.verbs
    | none => .error (.invalidField "role" ("unknown role '" ++ role ++ "'"))
  | none => (j.textsAt "verbs").mapM Verb.ofText

/-- **The capability of a description.** -/
def Capability.ofDocument (j : Json) : Except Error Capability := do
  let verbs ← verbsOfDocument j
  let kinds ← (j.textsAt "resources").mapM ResourceKind.ofText
  return ⟨verbs, kinds, j.textsAt? "subresources"⟩

/-- The policy of a description. -/
def VerificationPolicy.ofDocument (default : VerificationPolicy) (j : Json) :
    Except String VerificationPolicy :=
  match j.textAt? "policy" with
  | some s => ofText s
  | none => .ok default

/-- **The verification settings of a description.** -/
def VerifierConfig.ofDocument (default : VerifierConfig) (j : Json) :
    Except String VerifierConfig := do
  let policy ← VerificationPolicy.ofDocument default.policy j
  return {
    maxRetries := (j.natAt? "max_retries").getD default.maxRetries
    initialDelay := ((j.natAt? "initial_delay_ms").map Duration.ofMillis).getD default.initialDelay
    multiplier := (j.realAt? "multiplier").getD default.multiplier
    groups := (j.textsAt? "qualifiers").getD default.groups
    policy := policy }

/-- A verdict as JSON. -/
def Verdict.document : Verdict → Json
  | verified group attempts =>
    .object [("verified", .boolean true), ("qualifier", .text group), ("attempts", .count attempts)]
  | unverified groups _ _ => .object [("verified", .boolean false), ("qualifiers", .texts groups)]

/-- The decision that a description stands for. -/
def Decision.ofDocument (j : Json) : Decision :=
  if j.text? == some "allow" then .allowed else .denied (j.textAt? "deny")

/-- Whether a described object was there already. -/
def Creation.ofDocument (j : Json) : Creation :=
  if j.text? == some "exists" then .existed else .created

end GrantProbe
