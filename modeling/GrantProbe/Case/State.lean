import GrantProbe.Failure
import GrantProbe.Probe.Setting
import GrantProbe.SortedMap

/-!
# The state of a running case

A case owns its state: the active identity and workspace, the handles that its actions leave for later
steps, and what has to be removed when it ends.

* `ScopeRef`, `IdentitySpec`: how a case names workspaces and identities;
* `Fixture`: the setting and the baseline resources that a case runs against;
* `CaseState`, `CaseTask`: the state and the tasks that change it, keeping what they changed when they
  stop short;
* `establishIdentity`, `useScope`: becoming someone, going somewhere;
* `recordSuccess`, `recordFailure`: the outcome of the last action;
* `register`, `teardown`: cleaning up.
-/

namespace GrantProbe

/-- A workspace, by its place in the configured list. -/
inductive ScopeRef where
  | primary | secondary
  deriving DecidableEq, Repr, Inhabited

namespace ScopeRef

def index : ScopeRef → Nat
  | primary => 0
  | secondary => 1

def text : ScopeRef → String
  | primary => "Primary"
  | secondary => "Secondary"

end ScopeRef

/-- **An identity that a step runs as.** Its grant is in its own workspace. -/
structure IdentitySpec where
  scope : ScopeRef
  capability : Capability
  deriving DecidableEq, Repr, Inhabited

/-- **The baseline of a workspace:** resources that the administrative identity has seeded. -/
structure Baseline where
  experimentId : String
  runId : String
  modelName : String
  deriving DecidableEq, Repr, Inhabited

/-- What a case runs against. -/
structure Fixture where
  setting : Setting
  baseline : SortedMap Baseline

/-- The outcome of an action. -/
structure ActionRecord where
  name : String
  failed : Bool
  deriving DecidableEq, Repr, Inhabited

/-- The outcome of a cleanup: deletions attempted, and a message for each that failed. -/
structure CleanupReport where
  attempted : Nat
  failures : List String
  deriving DecidableEq, Repr, Inhabited

/-- Everything was removed. -/
def CleanupReport.isClean (r : CleanupReport) : Bool := r.failures.isEmpty

/-- Two cleanups, one after the other. -/
def CleanupReport.append (r s : CleanupReport) : CleanupReport :=
  ⟨r.attempted + s.attempted, r.failures ++ s.failures⟩

/-- **The state of a case.** The handles hold what the last action of their kind produced or targeted;
the registries map what has to be deleted to its workspace. -/
structure CaseState where
  identity : Option Identity
  scope : String
  client : Option Client
  experimentId : Option String
  runId : Option String
  modelName : Option String
  artifact : Option Artifact
  artifactList : Option (List String)
  downloaded : Option Bytes
  trainedModel : Option LinearModel
  loggedModelUri : Option String
  artifactLocation : Option String
  experiments : SortedMap String
  runs : SortedMap String
  models : SortedMap String
  identities : List Identity
  lastError : Option Failure
  lastAction : Option ActionRecord
  deriving Inhabited

namespace CaseState

/-- The state in which a case begins: in the primary workspace, as nobody. -/
def fresh (scopes : List String) : CaseState where
  identity := none
  scope := scopes.headD ""
  client := none
  experimentId := none
  runId := none
  modelName := none
  artifact := none
  artifactList := none
  downloaded := none
  trainedModel := none
  loggedModelUri := none
  artifactLocation := none
  experiments := .empty
  runs := .empty
  models := .empty
  identities := []
  lastError := none
  lastAction := none

/-- The name of the active identity. -/
def identityName (s : CaseState) : String :=
  match s.identity with
  | some i => i.name
  | none => "<none>"

/-- Resources and identities that are still to be cleaned up. -/
def pendingCleanup (s : CaseState) : Nat :=
  s.experiments.size + s.runs.size + s.models.size + s.identities.length

/-- The state after an action that succeeded. The last error stays. -/
def recordSuccess (s : CaseState) (action : String) : CaseState :=
  { s with lastAction := some ⟨action, false⟩ }

/-- The failure that an error is, for whoever is active. -/
def classify (s : CaseState) (e : Error) : Failure :=
  .inContext e.message s.identityName s.scope

/-- The state after an action that failed. -/
def recordFailure (s : CaseState) (action : String) (e : Error) : CaseState :=
  { s with lastError := some (s.classify e), lastAction := some ⟨action, true⟩ }

end CaseState

/-- **Tasks on the state of a case.** -/
abbrev CaseTask (α : Type) : Type := ExceptT Stop (StateT CaseState (Program probe)) α

namespace CaseTask

variable {α : Type}

/-- A task of the probe, which leaves the state alone. -/
def lift (t : Probe α) : CaseTask α := ExceptT.mk (StateT.lift t.run)

/-- Stops with an error. -/
def fail (e : Error) : CaseTask α := throw (.error e)

/-- A result that may be an error. -/
def check : Except Error α → CaseTask α
  | .ok a => pure a
  | .error e => fail e

/-- **Handling errors.** The error, if the task failed, with the state it left; an abnormal end passes
through. -/
def attempt (t : CaseTask α) : CaseTask (Except Error α) :=
  ExceptT.mk fun s => Program.bind (t.run s) fun
    | (.ok a, s) => .done (.ok (.ok a), s)
    | (.error (.error e), s) => .done (.ok (.error e), s)
    | (.error (.panic p), s) => .done (.error (.panic p), s)

end CaseTask

/-! ## Identity and workspace -/

/-- The name of a workspace. -/
def resolveScope (scopes : List String) (ref : ScopeRef) : Except Error String :=
  match scopes[ref.index]? with
  | some scope => .ok scope
  | none =>
    .error (.invalidField "workspaces"
      (ref.text ++ " workspace requested but only " ++ toString scopes.length ++ " configured"))

/-- Builds the client of the active identity in the active workspace. -/
def rebind : CaseTask Unit := do
  let s ← get
  match s.identity with
  | none => set { s with client := none }
  | some i =>
    let client ← CaseTask.lift (Setting.clientFor i s.scope)
    set { s with client := some client }

/-- **Becoming someone:** establishes an identity and makes it active in its own workspace. -/
def establishIdentity (fx : Fixture) (spec : IdentitySpec) : CaseTask Unit := do
  let scope ← CaseTask.check (resolveScope fx.setting.scopes spec.scope)
  let i ← CaseTask.lift (fx.setting.establish scope spec.capability)
  modify fun s => { s with identities := s.identities ++ [i], identity := some i, scope := scope }
  rebind

/-- **Going somewhere:** makes a workspace active and keeps the identity. -/
def useScope (fx : Fixture) (ref : ScopeRef) : CaseTask Unit := do
  let scope ← CaseTask.check (resolveScope fx.setting.scopes ref)
  modify fun s => { s with scope := scope }
  rebind

/-- The error of acting as nobody. -/
def noIdentityError : Error := .invalidInput "no active identity; establish one before acting"

/-- The client of the active identity. -/
def CaseState.activeClient (s : CaseState) : Except Error Client :=
  match s.client with
  | some c => .ok c
  | none => .error noIdentityError

/-- The baseline of the active workspace. -/
def Fixture.baselineIn (fx : Fixture) (s : CaseState) : Option Baseline := fx.baseline.get? s.scope

/-! ## Cleaning up -/

/-- The kinds of resource that a case cleans up. -/
inductive Cleanable where
  | run | model | experiment
  deriving DecidableEq, Repr, Inhabited

namespace Cleanable

/-- The words for a kind. -/
def text : Cleanable → String
  | run => "run"
  | model => "registered model"
  | experiment => "experiment"

/-- The name of the identifier of a kind. -/
def field : Cleanable → String
  | run => "run_id"
  | model => "model_name"
  | experiment => "experiment_id"

/-- Deletes a resource of a kind as a client. -/
def delete : Cleanable → Client → String → Probe Unit
  | run, client, id => Probe.tracking client (.deleteRun id)
  | model, client, id => Probe.tracking client (.deleteRegisteredModel id)
  | experiment, client, id => Probe.tracking client (.deleteExperiment id)

end Cleanable

namespace CaseState

/-- The registry of a kind. -/
def registry (s : CaseState) : Cleanable → SortedMap String
  | .run => s.runs
  | .model => s.models
  | .experiment => s.experiments

/-- The state with the registry of a kind replaced. -/
def withRegistry (s : CaseState) (kind : Cleanable) (m : SortedMap String) : CaseState :=
  match kind with
  | .run => { s with runs := m }
  | .model => { s with models := m }
  | .experiment => { s with experiments := m }

/-- **Registering for cleanup.** A blank identifier or workspace is refused. -/
def register (s : CaseState) (kind : Cleanable) (id scope : String) : Except Error CaseState :=
  if Text.isAllBlank id then
    .error (.invalidField kind.field (kind.field ++ " cannot be empty"))
  else if Text.isAllBlank scope then
    .error (.invalidField "workspace" "workspace cannot be empty")
  else .ok (s.withRegistry kind ((s.registry kind).insert id scope))

/-- Stops tracking what an action has deleted. -/
def forget (s : CaseState) (kind : Cleanable) (id : String) : CaseState :=
  s.withRegistry kind ((s.registry kind).erase id)

end CaseState

/-- Deletes one resource in its workspace as the administrative identity. A resource that is missing is
no failure. -/
def removeResource (setting : Setting) (kind : Cleanable) (id scope : String) :
    Probe CleanupReport := do
  let client ← setting.adminClientFor scope
  match ← (kind.delete client id).attempt with
  | .ok () => pure ⟨1, []⟩
  | .error e =>
    if FailureCode.ofMessage e.message = .resourceNotFound then pure ⟨1, []⟩
    else pure ⟨1, ["delete " ++ kind.text ++ " " ++ id ++ " in " ++ scope ++ ": " ++ e.message]⟩

/-- Deletes resources of one kind, one after the other. -/
def removeResources (setting : Setting) (kind : Cleanable) :
    List (String × String) → Probe CleanupReport
  | [] => pure ⟨0, []⟩
  | (id, scope) :: rest => do
    let first ← removeResource setting kind id scope
    let others ← removeResources setting kind rest
    pure (first.append others)

/-- Retires identities, one after the other. -/
def retireAll : List Identity → Probe CleanupReport
  | [] => pure ⟨0, []⟩
  | i :: rest => do
    let failures ← Setting.retire i
    let others ← retireAll rest
    pure (CleanupReport.append ⟨1, failures⟩ others)

/-- Takes a registry out of the state and deletes what it holds. -/
def cleanRegistry (fx : Fixture) (kind : Cleanable) : CaseTask CleanupReport := do
  let s ← get
  set (s.withRegistry kind .empty)
  CaseTask.lift (removeResources fx.setting kind (s.registry kind).entries)

/-- **Tearing a case down.** Deletes what it registered, runs first and experiments last, then retires
its identities in the order in which they were established. -/
def teardown (fx : Fixture) : CaseTask CleanupReport := do
  let runs ← cleanRegistry fx .run
  let models ← cleanRegistry fx .model
  let experiments ← cleanRegistry fx .experiment
  let s ← get
  set { s with identities := [] }
  let identities ← CaseTask.lift (retireAll s.identities)
  modify fun s => { s with identity := none, client := none }
  pure (((runs.append models).append experiments).append identities)

end GrantProbe
