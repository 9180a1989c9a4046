import GrantProbe.Case.Action
import GrantProbe.Proofs.World.Exact

/-!
# Moves

The actions of the catalogue by name, with what each needs, so that a statement about all of them is
proved by cases.

* `Move`, with `Move.action`: the actions by name;
* `Move.needs?`: the permission that an action takes; `Move.Ready`: it has what it acts on;
* `exec_callAsActive` and its like: the parts of an action;
* `exec_move_refused`: an action that is not permitted is refused, and leaves the state as it was.
-/

namespace GrantProbe

open Program (Handler)
open CaseTask (exec)

/-- **The actions of the catalogue,** by name. -/
inductive Move where
  | getExperiment | createExperiment | deleteExperiment
  | createRun | deleteRun | endRun | getRunInfo
  | prepareArtifact | logArtifact | listArtifacts | downloadArtifact
  | trainModel | logModel | loadModel
  | getRegisteredModel | createRegisteredModel | deleteRegisteredModel
  deriving DecidableEq, Repr

namespace Move

/-- Every move, in the order of the catalogue. -/
def all : List Move :=
  [getExperiment, createExperiment, deleteExperiment, createRun, deleteRun, endRun, getRunInfo,
    prepareArtifact, logArtifact, listArtifacts, downloadArtifact, trainModel, logModel, loadModel,
    getRegisteredModel, createRegisteredModel, deleteRegisteredModel]

/-- The action of a move. -/
def action : Move → Action
  | getExperiment => Action.getExperiment
  | createExperiment => Action.createExperiment
  | deleteExperiment => Action.deleteExperiment
  | createRun => Action.createRun
  | deleteRun => Action.deleteRun
  | endRun => Action.endRun
  | getRunInfo => Action.getRunInfo
  | prepareArtifact => Action.prepareArtifact
  | logArtifact => Action.logArtifact
  | listArtifacts => Action.listArtifacts
  | downloadArtifact => Action.downloadArtifact
  | trainModel => Action.trainModel
  | logModel => Action.logModel
  | loadModel => Action.loadModel
  | getRegisteredModel => Action.getRegisteredModel
  | createRegisteredModel => Action.createRegisteredModel
  | deleteRegisteredModel => Action.deleteRegisteredModel

/-- **The permission that a move takes** at the tracking service, if it goes there. -/
def needs? : Move → Option (Verb × ResourceKind)
  | getExperiment | getRunInfo | listArtifacts | downloadArtifact | loadModel =>
      some (.get, .experiments)
  | createExperiment => some (.create, .experiments)
  | deleteExperiment => some (.delete, .experiments)
  | createRun | deleteRun | endRun | logArtifact | logModel => some (.update, .experiments)
  | getRegisteredModel => some (.get, .registeredModels)
  | createRegisteredModel => some (.create, .registeredModels)
  | deleteRegisteredModel => some (.delete, .registeredModels)
  | prepareArtifact | trainModel => none

/-- **The move has what it acts on,** and calls the tracking service before it notes anything. -/
def Ready (fx : Fixture) (s : CaseState) : Move → Prop
  | getExperiment => ∃ id, Action.baselineExperiment fx s = .ok id
  | createExperiment | createRegisteredModel => True
  | deleteExperiment | createRun => ∃ id, Action.targetExperiment fx s = .ok id
  | deleteRun | getRunInfo | logArtifact | listArtifacts => ∃ id, Action.targetRun fx s = .ok id
  | downloadArtifact => (∃ id, Action.targetRun fx s = .ok id) ∧ s.artifact.isSome
  | logModel => (∃ id, Action.targetRun fx s = .ok id) ∧ s.trainedModel.isSome
  | endRun => s.runId.isSome
  | getRegisteredModel => ∃ name, Action.baselineModel fx s = .ok name
  | deleteRegisteredModel => ∃ name, Action.targetModel fx s = .ok name
  | prepareArtifact | trainModel | loadModel => False

end Move

/-! ## The parts of an action -/

section
variable {σ α : Type} {h : Handler probe σ} {p : Point σ}

theorem exec_check_get (f : CaseState → Except Error α) {a : α} (hf : f p.state = .ok a)
    (k : α → CaseTask Unit) :
    exec h (get >>= fun s => CaseTask.check (f s) >>= k) p = exec h (k a) p := by
  rw [CaseTask.exec_bind_ok (CaseTask.exec_get h p), hf,
    CaseTask.exec_bind_ok (CaseTask.exec_check_ok h p a)]

theorem exec_draw (k : String → CaseTask Unit) :
    exec h (CaseTask.lift Probe.suffix >>= k) p =
      exec h (k (h .suffix p.world).1) { p with world := (h .suffix p.world).2 } :=
  CaseTask.exec_bind_ok (CaseTask.exec_lift_ok (exec_suffix h p.world)) k

theorem exec_callAsActive {client : Client} (hc : p.state.client = some client)
    (call : TrackingCall) :
    exec h (Action.callAsActive call) p =
      ((h (.tracking client call) p.world).1,
      { p with world := (h (.tracking client call) p.world).2 }) := by
  have hactive : p.state.activeClient = .ok client := by rw [CaseState.activeClient, hc]
  unfold Action.callAsActive
  rw [CaseTask.exec_bind_ok (CaseTask.exec_get h p), hactive,
    CaseTask.exec_bind_ok (CaseTask.exec_check_ok h p client), CaseTask.exec_lift, exec_tracking]

theorem exec_artifactOrSample {a : Artifact} (ha : p.state.artifact = some a) :
    exec h Action.artifactOrSample p = (.ok a, p) := by
  unfold Action.artifactOrSample
  rw [CaseTask.exec_bind_ok (CaseTask.exec_get h p), ha]
  rfl

theorem exec_artifactOrSample_drawn (ha : p.state.artifact = none) :
    exec h Action.artifactOrSample p = (.ok (.sample (h .suffix p.world).1),
      ⟨{ p.state with artifact := some (.sample (h .suffix p.world).1) }, (h .suffix p.world).2⟩) := by
  unfold Action.artifactOrSample
  rw [CaseTask.exec_bind_ok (CaseTask.exec_get h p), ha]
  rfl

theorem required_ok {handle : Option α} {a : α} (ha : handle = some a) (message : String) :
    Action.required handle message = .ok a := by
  rw [ha, Action.required]

theorem exec_call_ok {client : Client} (hc : p.state.client = some client) {call : TrackingCall}
    {r : call.Answer} {w : σ} (hr : h (.tracking client call) p.world = (.ok r, w))
    (k : call.Answer → CaseTask Unit) :
    exec h (Action.callAsActive call >>= k) p = exec h (k r) { p with world := w } := by
  rw [CaseTask.exec_bind, exec_callAsActive hc, hr]

theorem exec_call_error {client : Client} (hc : p.state.client = some client) {call : TrackingCall}
    {e : Stop} {w : σ} (hr : h (.tracking client call) p.world = (.error e, w))
    (k : call.Answer → CaseTask Unit) :
    exec h (Action.callAsActive call >>= k) p = (.error e, { p with world := w }) := by
  rw [CaseTask.exec_bind, exec_callAsActive hc, hr]

end

/-! ## Permitted and refused calls -/

/-- The point after a suffix has been drawn. -/
def Point.afterDraw (p : Point World) : Point World :=
  { p with world := { p.world with draws := p.world.draws + 1 } }

theorem exec_draw_world (draw : Nat → String) (p : Point World) (k : String → CaseTask Unit) :
    exec (World.answerWith draw) (CaseTask.lift Probe.suffix >>= k) p =
      exec (World.answerWith draw) (k (draw p.world.draws)) p.afterDraw := exec_draw k

/-- The point after the sample has been prepared. -/
def Point.afterSample (p : Point World) (draw : Nat → String) : Point World :=
  { p.afterDraw with state := { p.state with artifact := some (.sample (draw p.world.draws)) } }

theorem exec_artifactOrSample_none {draw : Nat → String} {p : Point World}
    (ha : p.state.artifact = none) :
    exec (World.answerWith draw) Action.artifactOrSample p =
      (.ok (.sample (draw p.world.draws)), p.afterSample draw) := exec_artifactOrSample_drawn ha

/-- Permission for a need, whatever the call. -/
def World.permitsNeed (w : World) (client : Client) (need : Verb × ResourceKind) : Bool :=
  client.identity == adminName || !w.enforce ||
    w.cluster.allows client.identity client.workspace need.2.text need.1.text

theorem World.permits_eq (w : World) (client : Client) (call : TrackingCall) :
    w.permits client call = w.permitsNeed client call.needs := rfl

section
variable {draw : Nat → String} {p : Point World} {client : Client}

theorem answerWith_refused {call : TrackingCall} {need : Verb × ResourceKind}
    (hneed : call.needs = need) {w : World} (hno : w.permitsNeed client need = false) :
    World.answerWith draw (.tracking client call) w = (.error (.error (refusal call)), w) := by
  rw [World.answerWith_tracking, World.tracking, World.permits_eq, hneed, hno]
  rfl

theorem exec_callAsActive_refused (hc : p.state.client = some client) (call : TrackingCall)
    {need : Verb × ResourceKind} (hneed : call.needs = need)
    (hno : p.world.permitsNeed client need = false) :
    exec (World.answerWith draw) (Action.callAsActive call) p =
      (.error (.error (refusal call)), p) := by
  rw [exec_callAsActive hc, answerWith_refused hneed hno]

theorem exec_call_refused (hc : p.state.client = some client) (call : TrackingCall)
    {need : Verb × ResourceKind} (hneed : call.needs = need)
    (hno : p.world.permitsNeed client need = false) (k : call.Answer → CaseTask Unit) :
    exec (World.answerWith draw) (Action.callAsActive call >>= k) p =
      (.error (.error (refusal call)), p) :=
  exec_call_error hc (answerWith_refused hneed hno) k

theorem answerWith_permitted {call : TrackingCall} {need : Verb × ResourceKind}
    (hneed : call.needs = need) {w : World} (hyes : w.permitsNeed client need = true)
    {r : call.Answer} {server : Server}
    (hr : w.server.perform client.workspace call = (.ok r, server)) :
    World.answerWith draw (.tracking client call) w = (.ok r, { w with server := server }) := by
  rw [World.answerWith_tracking, World.tracking, World.permits_eq, hneed, hyes]
  rw [if_pos rfl, hr]
  rfl

/-- What is permitted may still fail for something that is missing. -/
theorem answerWith_failed {call : TrackingCall} {need : Verb × ResourceKind}
    (hneed : call.needs = need) {w : World} (hyes : w.permitsNeed client need = true) {e : Error}
    {server : Server} (hr : w.server.perform client.workspace call = (.error e, server)) :
    World.answerWith draw (.tracking client call) w =
      (.error (.error e), { w with server := server }) := by
  rw [World.answerWith_tracking, World.tracking, World.permits_eq, hneed, hyes]
  rw [if_pos rfl, hr]
  rfl

/-- The point after the tracking server has changed. -/
def Point.withServer (p : Point World) (server : Server) : Point World :=
  { p with world := { p.world with server := server } }

theorem exec_call_permitted (hc : p.state.client = some client) (call : TrackingCall)
    {need : Verb × ResourceKind} (hneed : call.needs = need)
    (hyes : p.world.permitsNeed client need = true) {r : call.Answer} {server : Server}
    (hr : p.world.server.perform client.workspace call = (.ok r, server))
    (k : call.Answer → CaseTask Unit) :
    exec (World.answerWith draw) (Action.callAsActive call >>= k) p =
      exec (World.answerWith draw) (k r) (p.withServer server) :=
  exec_call_ok hc (answerWith_permitted hneed hyes hr) k

theorem exec_callAsActive_permitted (hc : p.state.client = some client) (call : TrackingCall)
    {need : Verb × ResourceKind} (hneed : call.needs = need)
    (hyes : p.world.permitsNeed client need = true) {r : call.Answer} {server : Server}
    (hr : p.world.server.perform client.workspace call = (.ok r, server)) :
    exec (World.answerWith draw) (Action.callAsActive call) p = (.ok r, p.withServer server) := by
  rw [exec_callAsActive hc, answerWith_permitted hneed hyes hr]
  rfl

/-- The point after a refusal: suffixes may have been drawn, and an upload may have prepared an
artifact if there was none. -/
def Point.IsAfterRefusal (move : Move) (p q : Point World) : Prop :=
  (∃ draws, q.world = { p.world with draws := draws }) ∧
    (q.state = p.state ∨
      move = .logArtifact ∧ p.state.artifact = none ∧
        ∃ a, q.state = { p.state with artifact := some a })

theorem isAfterRefusal_self (move : Move) (p : Point World) : p.IsAfterRefusal move p :=
  ⟨⟨p.world.draws, rfl⟩, Or.inl rfl⟩

theorem isAfterRefusal_afterDraw (move : Move) (p : Point World) :
    p.IsAfterRefusal move p.afterDraw :=
  ⟨⟨p.world.draws + 1, rfl⟩, Or.inl rfl⟩

theorem exec_target_refused (draw : Nat → String) {target : CaseState → Except Error String}
    {need : Verb × ResourceKind} (hready : ∃ id, target p.state = .ok id)
    (hc : p.state.client = some client) (hno : p.world.permitsNeed client need = false)
    (call : String → TrackingCall) (hneed : ∀ id, (call id).needs = need) (move : Move)
    (k : (id : String) → (call id).Answer → CaseTask Unit) :
    ∃ c q, c.needs = need ∧ p.IsAfterRefusal move q ∧
      exec (World.answerWith draw) (get >>= fun s => CaseTask.check (target s) >>= fun id =>
          Action.callAsActive (call id) >>= k id) p = (.error (.error (refusal c)), q) := by
  obtain ⟨id, hid⟩ := hready
  refine ⟨call id, p, hneed id, isAfterRefusal_self move p, (exec_check_get target hid _).trans ?_⟩
  exact exec_call_refused hc (call id) (hneed id) hno _

theorem exec_drawn_refused (draw : Nat → String) {need : Verb × ResourceKind}
    (hc : p.state.client = some client) (hno : p.world.permitsNeed client need = false)
    (call : String → TrackingCall) (hneed : ∀ suffix, (call suffix).needs = need) (move : Move)
    (k : (suffix : String) → (call suffix).Answer → CaseTask Unit) :
    ∃ c q, c.needs = need ∧ p.IsAfterRefusal move q ∧
      exec (World.answerWith draw) (CaseTask.lift Probe.suffix >>= fun suffix =>
          Action.callAsActive (call suffix) >>= k suffix) p = (.error (.error (refusal c)), q) := by
  refine ⟨call (draw p.world.draws), p.afterDraw, hneed _, isAfterRefusal_afterDraw move p,
    (exec_draw_world draw p _).trans ?_⟩
  exact exec_call_refused (p := p.afterDraw) hc (call (draw p.world.draws)) (hneed _) hno _

/-- **A move that is not permitted is refused.** One case for each move that calls the tracking
service. -/
theorem exec_move_refused (draw : Nat → String) {fx : Fixture} {move : Move}
    {need : Verb × ResourceKind} (hneed : move.needs? = some need) (hready : move.Ready fx p.state)
    (hc : p.state.client = some client) (hno : p.world.permitsNeed client need = false) :
    ∃ call q, call.needs = need ∧ p.IsAfterRefusal move q ∧
      exec (World.answerWith draw) (move.action.run fx) p =
        (.error (.error (refusal call)), q) := by
  cases move <;> cases hneed
  case getExperiment =>
    exact exec_target_refused draw hready hc hno .getExperiment (fun _ => rfl) _ _
  case createExperiment =>
    exact exec_drawn_refused draw hc hno
      (fun suffix => .createExperiment ("test-experiment-" ++ suffix)) (fun _ => rfl) _ _
  case deleteExperiment =>
    exact exec_target_refused draw hready hc hno .deleteExperiment (fun _ => rfl) _ _
  case createRun =>
    exact exec_target_refused draw hready hc hno .createRun (fun _ => rfl) _ _
  case deleteRun =>
    exact exec_target_refused draw hready hc hno .deleteRun (fun _ => rfl) _ _
  case endRun =>
    obtain ⟨id, hid⟩ := Option.isSome_iff_exists.mp hready
    refine ⟨.endRun id, p, rfl, isAfterRefusal_self _ p, ?_⟩
    refine (exec_check_get (fun s => Action.required s.runId _) (required_ok hid _) _).trans ?_
    exact exec_callAsActive_refused hc (.endRun id) rfl hno
  case getRunInfo =>
    exact exec_target_refused draw hready hc hno .getRun (fun _ => rfl) _ _
  case logArtifact =>
    obtain ⟨id, hid⟩ := hready
    cases ha : p.state.artifact with
    | some a =>
      refine ⟨.logArtifact id a, p, rfl, isAfterRefusal_self _ p, ?_⟩
      refine (exec_check_get (Action.targetRun fx) hid _).trans ?_
      refine (CaseTask.exec_bind_ok (exec_artifactOrSample ha) _).trans ?_
      exact exec_callAsActive_refused hc (.logArtifact id a) rfl hno
    | none =>
      refine ⟨.logArtifact id (.sample (draw p.world.draws)), p.afterSample draw, rfl,
        ⟨⟨p.world.draws + 1, rfl⟩, Or.inr ⟨rfl, ha, _, rfl⟩⟩, ?_⟩
      refine (exec_check_get (Action.targetRun fx) hid _).trans ?_
      refine (CaseTask.exec_bind_ok (exec_artifactOrSample_none ha) _).trans ?_
      exact exec_callAsActive_refused (p := p.afterSample draw) hc
        (.logArtifact id (.sample (draw p.world.draws))) rfl hno
  case listArtifacts =>
    exact exec_target_refused draw hready hc hno .listArtifacts (fun _ => rfl) _ _
  case downloadArtifact =>
    obtain ⟨⟨id, hid⟩, hart⟩ := hready
    obtain ⟨a, ha⟩ := Option.isSome_iff_exists.mp hart
    refine ⟨.downloadArtifact id a.name, p, rfl, isAfterRefusal_self _ p, ?_⟩
    refine (exec_check_get (Action.targetRun fx) hid _).trans ?_
    refine (exec_check_get (fun s => Action.required s.artifact _) (required_ok ha _) _).trans ?_
    exact exec_call_refused hc (.downloadArtifact id a.name) rfl hno _
  case logModel =>
    obtain ⟨⟨id, hid⟩, hmodel⟩ := hready
    obtain ⟨m, hm⟩ := Option.isSome_iff_exists.mp hmodel
    refine ⟨.logModel id m, p, rfl, isAfterRefusal_self _ p,
      (exec_check_get (Action.targetRun fx) hid _).trans ?_⟩
    refine (exec_check_get (fun s => Action.required s.trainedModel _)
      (required_ok hm _) _).trans ?_
    exact exec_call_refused hc (.logModel id m) rfl hno _
  case loadModel => exact hready.elim
  case getRegisteredModel =>
    exact exec_target_refused draw hready hc hno .getRegisteredModel (fun _ => rfl) _ _
  case createRegisteredModel =>
    exact exec_drawn_refused draw hc hno
      (fun suffix => .createRegisteredModel ("test-model-" ++ suffix)) (fun _ => rfl) _ _
  case deleteRegisteredModel =>
    exact exec_target_refused draw hready hc hno .deleteRegisteredModel (fun _ => rfl) _ _

end

end GrantProbe
