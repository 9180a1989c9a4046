import Mathlib.Data.List.Basic
import GrantProbe.Proofs.Frame
import GrantProbe.Proofs.Transcript

/-!
# The shape of an action

An action of the catalogue looks things up first. Then it creates one resource and registers it, or
deletes one and forgets it, or makes one other call, and notes what came of it. Two actions change the
state before their call. So what holds of all actions is proved of these shapes and of the two.

* `CaseState.holdings`: what a case would have to clean up, and from where;
* `CaseTask.Deed`: the shapes, with a constructor for each way to begin and to end; `deed_of_mem`: every
  action of the catalogue but the two has one of them;
* `CaseTask.Plain`: a task that neither creates nor deletes, and keeps the holdings;
* `CaseTask.Tidy`: a task that registers what it creates and forgets what it deletes; `tidy_of_mem`:
  every action of the catalogue is one;
* `test_of_mem`: what holds of every check of the catalogue; `asks_of_mem`: it only reads;
  `Step.asks_verify`: so does a step that makes it.
-/

namespace GrantProbe

/-! ## Holdings -/

/-- **What a case holds:** the workspace and the client by which it acts, and everything that it has
to clean up. -/
structure Holdings where
  scope : String
  client : Option Client
  identities : List Identity
  experiments : SortedMap String
  runs : SortedMap String
  models : SortedMap String

def CaseState.holdings (s : CaseState) : Holdings :=
  ⟨s.scope, s.client, s.identities, s.experiments, s.runs, s.models⟩

section
variable {s t : CaseState} (h : s.holdings = t.holdings)
include h

theorem scope_eq_of_holdings : s.scope = t.scope := congrArg Holdings.scope h

theorem client_eq_of_holdings : s.client = t.client := congrArg Holdings.client h

theorem identities_eq_of_holdings : s.identities = t.identities := congrArg Holdings.identities h

theorem registry_eq_of_holdings (kind : Cleanable) : s.registry kind = t.registry kind := by
  cases kind with
  | run => exact congrArg Holdings.runs h
  | model => exact congrArg Holdings.models h
  | experiment => exact congrArg Holdings.experiments h

end

/-! ## Calls that create and delete -/

/-- The baseline resource of a kind. -/
def Baseline.idOf (b : Baseline) : Cleanable → String
  | .run => b.runId
  | .model => b.modelName
  | .experiment => b.experimentId

/-- Creates a resource of a kind, as the active identity. -/
def Cleanable.create : Cleanable → String → CaseTask String
  | .run, parent => Action.callAsActive (.createRun parent)
  | .model, name => Action.callAsActive (.createRegisteredModel name)
  | .experiment, name => Action.callAsActive (.createExperiment name)

/-- Deletes a resource of a kind, as the active identity. -/
def Cleanable.remove : Cleanable → String → CaseTask Unit
  | .run, id => Action.callAsActive (.deleteRun id)
  | .model, name => Action.callAsActive (.deleteRegisteredModel name)
  | .experiment, id => Action.callAsActive (.deleteExperiment id)

/-- A call that neither creates nor deletes what a case cleans up. -/
def TrackingCall.IsPlain : TrackingCall → Prop
  | createExperiment _ | createRun _ | createRegisteredModel _ => False
  | deleteExperiment _ | deleteRun _ | deleteRegisteredModel _ => False
  | _ => True

/-- A request that neither creates nor deletes, of the tracking service or of chance. -/
inductive Ask.IsPlain : Ask → Prop
  | suffix : IsPlain .suffix
  | call (client : Client) {call : TrackingCall} (h : call.IsPlain) : IsPlain (.tracking client call)

/-- **A change that only notes something:** it keeps what the case holds, and who is active. -/
def OnlyNotes (f : CaseState → CaseState) : Prop :=
  ∀ s, (f s).holdings = s.holdings ∧ (f s).identity = s.identity

namespace CaseTask

/-! ## Deeds -/

/-- **The shape of an action.** It looks at the state, weighs what it finds and draws names; it ends with
one call and a note of what came of it, or with a note alone. -/
inductive Deed : CaseTask Unit → Prop
  | look {k : CaseState → CaseTask Unit} (hk : ∀ s, Deed (k s)) : Deed (get >>= k)
  | weigh {α : Type} (r : Except Error α) {k : α → CaseTask Unit} (hk : ∀ a, Deed (k a)) :
    Deed (check r >>= k)
  | draw {k : String → CaseTask Unit} (hk : ∀ suffix, Deed (k suffix)) :
    Deed (lift Probe.suffix >>= k)
  | note {f : CaseState → CaseState} (hf : OnlyNotes f) : Deed (modify f)
  | finish (id : String) : Deed (Action.callAsActive (.endRun id))
  | upload (id : String) (artifact : Artifact) : Deed (Action.callAsActive (.logArtifact id artifact))
  | consult (call : TrackingCall) (f : call.Answer → CaseState → CaseState) (h : call.IsPlain)
    (hf : ∀ r, OnlyNotes (f r)) : Deed (Action.callAsActive call >>= fun r => modify (f r))
  | create (kind : Cleanable) (arg : String) {f : String → CaseState → CaseState}
    (hf : ∀ id, OnlyNotes (f id)) :
    Deed (kind.create arg >>= fun id => Action.registerHere kind id >>= fun _ => modify (f id))
  | delete (kind : Cleanable) (id : String) {f : CaseState → CaseState} (hf : OnlyNotes f) :
    Deed (kind.remove id >>= fun _ => modify fun s => f (s.forget kind id))

theorem Deed.lookup {α : Type} (f : CaseState → Except Error α) {k : α → CaseTask Unit}
    (hk : ∀ a, Deed (k a)) : Deed (get >>= fun s => check (f s) >>= k) :=
  .look fun s => .weigh (f s) hk

end CaseTask

open CaseTask in
/-- **Every action of the catalogue is a deed,** but for the two that change the state before their
call. One case for each. -/
theorem deed_of_mem {action : Action} (ha : action ∈ allActions) (hlog : action ≠ Action.logArtifact)
    (hload : action ≠ Action.loadModel) (fx : Fixture) : Deed (action.run fx) := by
  have hall : allActions.Forall fun action => action ≠ Action.logArtifact →
      action ≠ Action.loadModel → Deed (action.run fx) := by
    refine ⟨?getExperiment, ?createExperiment, ?deleteExperiment, ?createRun, ?deleteRun, ?endRun,
      ?getRunInfo, ?prepareArtifact, fun h _ => absurd rfl h, ?listArtifacts, ?downloadArtifact,
      ?trainModel, ?logModel, fun _ h => absurd rfl h, ?getRegisteredModel, ?createRegisteredModel,
      ?deleteRegisteredModel⟩ <;> intro _ _
    case getExperiment => exact .lookup _ fun id => .consult _ _ trivial fun _ _ => ⟨rfl, rfl⟩
    case createExperiment => exact .draw fun _ => .create .experiment _ fun _ _ => ⟨rfl, rfl⟩
    case deleteExperiment =>
      exact .lookup _ fun id =>
        .delete .experiment id (f := fun s => { s with experimentId := some id }) fun _ => ⟨rfl, rfl⟩
    case createRun => exact .lookup _ fun id => .create .run id fun _ _ => ⟨rfl, rfl⟩
    case deleteRun =>
      exact .lookup _ fun id =>
        .delete .run id (f := fun s => { s with runId := some id }) fun _ => ⟨rfl, rfl⟩
    case endRun => exact .lookup _ fun id => .finish id
    case getRunInfo => exact .lookup _ fun id => .consult _ _ trivial fun _ _ => ⟨rfl, rfl⟩
    case prepareArtifact => exact .draw fun _ => .note fun _ => ⟨rfl, rfl⟩
    case listArtifacts => exact .lookup _ fun id => .consult _ _ trivial fun _ _ => ⟨rfl, rfl⟩
    case downloadArtifact =>
      exact .lookup _ fun id => .lookup _ fun _ => .consult _ _ trivial fun _ _ => ⟨rfl, rfl⟩
    case trainModel => exact .weigh _ fun _ => .note fun _ => ⟨rfl, rfl⟩
    case logModel =>
      exact .lookup _ fun id => .lookup _ fun _ => .consult _ _ trivial fun _ _ => ⟨rfl, rfl⟩
    case getRegisteredModel => exact .lookup _ fun name => .consult _ _ trivial fun _ _ => ⟨rfl, rfl⟩
    case createRegisteredModel => exact .draw fun _ => .create .model _ fun _ _ => ⟨rfl, rfl⟩
    case deleteRegisteredModel =>
      exact .lookup _ fun name =>
        .delete .model name (f := fun s => { s with modelName := some name }) fun _ => ⟨rfl, rfl⟩
  exact List.forall_iff_forall_mem.mp hall action ha hlog hload

namespace CaseTask

/-! ## Plain tasks -/

/-- **A plain task** neither creates nor deletes, and keeps what the case holds. -/
structure Plain {α : Type} (t : CaseTask α) : Prop where
  asks : t.Asks Ask.IsPlain
  keeps : Keeps CaseState.holdings t

section
variable {α β : Type}

theorem plain_pure (a : α) : Plain (pure a) := ⟨asks_pure a, keeps_pure a⟩

theorem plain_check (r : Except Error α) : Plain (check r) := ⟨asks_check r, keeps_check r⟩

theorem plain_get : Plain get := ⟨asks_get, keeps_get⟩

theorem plain_modify {f : CaseState → CaseState} (hf : ∀ s, (f s).holdings = s.holdings) :
    Plain (modify f) := ⟨asks_modify f, keeps_modify hf⟩

theorem plain_lift {t : Probe α} (ht : t.Asks Ask.IsPlain) : Plain (lift t) :=
  ⟨asks_lift ht, keeps_lift t⟩

theorem Plain.bind {t : CaseTask α} {k : α → CaseTask β} (ht : Plain t) (hk : ∀ a, Plain (k a)) :
    Plain (t >>= k) := ⟨ht.asks.bind fun a => (hk a).asks, ht.keeps.bind fun a => (hk a).keeps⟩

theorem plain_suffix : Plain (lift Probe.suffix) := plain_lift (asks_suffix .suffix)

theorem plain_call {call : TrackingCall} (h : call.IsPlain) : Plain (Action.callAsActive call) :=
  plain_get.bind fun s => (plain_check s.activeClient).bind fun client =>
    plain_lift (asks_tracking (.call client h))

theorem plain_artifactOrSample : Plain Action.artifactOrSample := by
  refine plain_get.bind fun s => ?_
  split
  · exact plain_pure _
  · refine plain_suffix.bind fun suffix => Plain.bind (plain_modify ?_) fun _ => plain_pure _
    exact fun s => rfl

end

/-! ## Tidy tasks -/

/-- **A tidy task:** what it creates it registers at once, and what it deletes it forgets at once;
before that it is plain, and afterwards it notes what it did. -/
inductive Tidy : CaseTask Unit → Prop
  | plain {t : CaseTask Unit} (ht : Plain t) : Tidy t
  | after {α : Type} {t : CaseTask α} {k : α → CaseTask Unit} (ht : Plain t)
    (hk : ∀ a, Tidy (k a)) : Tidy (t >>= k)
  | create (kind : Cleanable) (arg : String) {f : String → CaseState → CaseState}
    (hf : ∀ id s, (f id s).holdings = s.holdings) :
    Tidy (kind.create arg >>= fun id => Action.registerHere kind id >>= fun _ => modify (f id))
  | delete (kind : Cleanable) (id : String) {f : CaseState → CaseState}
    (hf : ∀ s, (f s).holdings = s.holdings) :
    Tidy (kind.remove id >>= fun _ => modify fun s => f (s.forget kind id))

theorem tidy_noted (call : TrackingCall) (f : call.Answer → CaseState → CaseState)
    (h : call.IsPlain) (hf : ∀ r s, (f r s).holdings = s.holdings) :
    Tidy (Action.callAsActive call >>= fun r => modify (f r)) :=
  .plain ((plain_call h).bind fun r => plain_modify (hf r))

theorem tidy_lookup {α : Type} (f : CaseState → Except Error α) {k : α → CaseTask Unit}
    (hk : ∀ a, Tidy (k a)) : Tidy (get >>= fun s => check (f s) >>= k) :=
  .after plain_get fun s => .after (plain_check (f s)) hk

end CaseTask

open CaseTask

/-- Deeds are tidy. The induction is on their shape. -/
theorem CaseTask.Deed.tidy {t : CaseTask Unit} (ht : Deed t) : Tidy t := by
  induction ht with
  | look _ ih => exact .after plain_get ih
  | weigh r _ ih => exact .after (plain_check r) ih
  | draw _ ih => exact .after plain_suffix ih
  | note hf => exact .plain (plain_modify fun s => (hf s).1)
  | finish _ => exact .plain (plain_call trivial)
  | upload _ _ => exact .plain (plain_call trivial)
  | consult call f h hf => exact tidy_noted call f h fun r s => (hf r s).1
  | create kind arg hf => exact .create kind arg fun id s => (hf id s).1
  | delete kind id hf => exact .delete kind id fun s => (hf s).1

/-- **Every action of the catalogue is tidy.** -/
theorem tidy_of_mem {action : Action} (ha : action ∈ allActions) (fx : Fixture) :
    Tidy (action.run fx) := by
  by_cases hlog : action = Action.logArtifact
  · subst hlog
    exact tidy_lookup _ fun id => .after plain_artifactOrSample fun _ => .plain (plain_call trivial)
  by_cases hload : action = Action.loadModel
  · subst hload
    exact tidy_lookup _ fun uri => .after (plain_modify (by intro s; rfl)) fun _ =>
      tidy_noted _ _ trivial fun _ _ => rfl
  exact (deed_of_mem ha hlog hload fx).tidy

/-! ## Checks -/

section
variable {P : Probe (Except String Unit) → Prop} {s : CaseState}
  (hverdict : ∀ r, P (Check.verdict r))
  (hasking : ∀ (call : TrackingCall) (test : Except Error call.Answer → Except String Unit),
    call.IsPlain → P (Check.asking s call test))
include hverdict hasking

theorem test_ofHandle (handle : Option String) (missing : Except String Unit)
    (call : String → TrackingCall) (h : ∀ id, (call id).IsPlain)
    (test : (id : String) → Except Error (call id).Answer → Except String Unit) :
    P (match handle with
      | none => Check.verdict missing
      | some id => Check.asking s (call id) (test id)) := by
  cases handle with
  | none => exact hverdict missing
  | some id => exact hasking (call id) (test id) (h id)

/-- **A check of the catalogue** has its verdict at once or asks for one thing, which it only reads.
One case for each. -/
theorem test_of_mem {c : Check} (hc : c ∈ allChecks) (fx : Fixture) : P (c.test fx s) := by
  have hhandle := test_ofHandle hverdict hasking
  have hrun (name : String) (test : RunInfo → Except String Unit) :
      P ((Check.ofRun name test).test fx s) := hhandle s.runId _ .getRun (fun _ => trivial) _
  have hmodel : P (Check.modelDeleted.test fx s) :=
    hhandle s.modelName _ .getRegisteredModel (fun _ => trivial) _
  have hall : allChecks.Forall fun c => P (c.test fx s) := by
    refine ⟨?actionDenied, ?experimentRetrieved, ?experimentCreated, ?experimentDeleted, ?runCreated,
      ?runDeleted, ?runFinished, ?artifactLogged, ?artifactDownloaded, ?storageVerified,
      ?modelLogged, ?modelLoaded, ?modelRetrieved, ?modelCreated, hmodel⟩
    case experimentDeleted => exact hhandle _ _ .getExperiment (fun _ => trivial) _
    case runDeleted => exact hrun _ _
    case runFinished => exact hrun _ _
    all_goals exact hverdict _
  exact List.forall_iff_forall_mem.mp hall c hc

end

theorem asks_asking {P : Ask → Prop} {s : CaseState} {call : TrackingCall}
    (hcall : ∀ client, s.client = some client → P (.tracking client call))
    (test : Except Error call.Answer → Except String Unit) :
    (Check.asking s call test).Asks P := by
  unfold Check.asking
  cases hclient : s.client with
  | none =>
    rw [CaseState.activeClient, hclient]
    exact Task.asks_pure _
  | some client =>
    rw [CaseState.activeClient, hclient]
    exact (asks_tracking (hcall client hclient)).attempt.bind fun _ => Task.asks_pure _

/-- **Every check of the catalogue only reads.** -/
theorem asks_of_mem {c : Check} (hc : c ∈ allChecks) (fx : Fixture) (s : CaseState) :
    (c.test fx s).Asks Ask.IsPlain := by
  have hverdict (r : Except String Unit) : (Check.verdict r).Asks Ask.IsPlain := Task.asks_pure r
  have hasking (call : TrackingCall) (test : Except Error call.Answer → Except String Unit)
      (h : call.IsPlain) : (Check.asking s call test).Asks Ask.IsPlain :=
    asks_asking (fun client _ => .call client h) test
  exact test_of_mem (P := fun t => t.Asks Ask.IsPlain) hverdict hasking hc fx

/-! ## Steps -/

theorem plain_recordFailure (action : String) (e : Error) :
    Plain (get >>= fun s : CaseState => set (s.recordFailure action e) >>= fun _ =>
      (pure (.failed (s.classify e).code) : CaseTask ActionOutcome)) := by
  refine ⟨asks_get.bind fun s => (asks_set _).bind fun _ => asks_pure _, fun σ h p => ?_⟩
  rfl

theorem plain_recordSuccess (action : String) :
    Plain (modify (fun s : CaseState => s.recordSuccess action) >>= fun _ =>
      (pure .succeeded : CaseTask ActionOutcome)) :=
  Plain.bind (plain_modify (by intro s; rfl)) fun _ => plain_pure _

theorem Step.asks_verify {P : Ask → Prop} {fx : Fixture} {step : Step}
    (hcheck : ∀ c, step.check = some c → ∀ s, (c.test fx s).Asks P) (outcome : ActionOutcome) :
    CaseTask.Asks P (step.verify fx outcome) := by
  unfold Step.verify
  split
  · exact asks_pure _
  · rename_i c hc
    refine asks_get.bind fun s => ?_
    split
    · exact asks_check (.error _)
    · refine (asks_lift (hcheck c hc s)).bind fun r => ?_
      rcases r with message | _
      · exact asks_check (.error _)
      · exact asks_pure _

end GrantProbe
