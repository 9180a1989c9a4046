import GrantProbe.Access.Verb
import GrantProbe.Tracking.Call

/-!
# A tracking server

A server that stores experiments, runs, artifacts and models for several workspaces, each record seen from
its own workspace alone.

* `TrackingCall.needs`: the verb and the kind of resource that a call takes;
* `Server`, with `Server.perform`: what a call that is permitted does;
* `refusal`, `missing`: the two ways in which a call fails.
-/

namespace GrantProbe

/-- **The permission that a call takes.** -/
def TrackingCall.needs : TrackingCall → Verb × ResourceKind
  | createExperiment _ => (.create, .experiments)
  | getExperiment _ | getRun _ | listArtifacts _ | downloadArtifact .. | loadModel _ =>
    (.get, .experiments)
  | deleteExperiment _ => (.delete, .experiments)
  | createRun _ | endRun _ | deleteRun _ | logArtifact .. | logModel .. => (.update, .experiments)
  | createRegisteredModel _ => (.create, .registeredModels)
  | getRegisteredModel _ => (.get, .registeredModels)
  | deleteRegisteredModel _ => (.delete, .registeredModels)

/-- The error of a call that is not permitted. -/
def refusal (call : TrackingCall) : Error :=
  .tracking call.name 403 ("PERMISSION_DENIED: Permission denied for " ++ call.needs.1.text ++ " on " ++
    call.needs.2.text)

/-- The error of a call for something that is not there. -/
def missing (call : TrackingCall) (what : String) : Error :=
  .tracking call.name 404 ("RESOURCE_DOES_NOT_EXIST: " ++ what ++ " not found")

/-- The stages of a record's life. -/
inductive Stage where
  | active | deleted
  deriving DecidableEq, Repr, Inhabited

def Stage.text : Stage → String
  | active => "active"
  | deleted => "deleted"

/-- A stored experiment. -/
structure StoredExperiment where
  id : String
  workspace : String
  name : String
  stage : Stage
  deriving DecidableEq, Repr, Inhabited

/-- A stored run. -/
structure StoredRun where
  id : String
  workspace : String
  experimentId : String
  status : String
  stage : Stage
  artifacts : List Artifact
  deriving DecidableEq, Repr, Inhabited

/-- A stored registered model. -/
structure StoredModel where
  workspace : String
  name : String
  deriving DecidableEq, Repr, Inhabited

/-- **A tracking server.** One counter numbers everything it names. -/
structure Server where
  counter : Nat
  experiments : List StoredExperiment
  runs : List StoredRun
  models : List StoredModel
  loggedModels : List (String × LinearModel)
  deriving Inhabited

/-- The artifact root of a run. -/
def artifactRoot (experimentId runId : String) : String :=
  proxiedScheme ++ "/" ++ experimentId ++ "/" ++ runId ++ "/artifacts"

namespace StoredExperiment

def report (e : StoredExperiment) : Experiment := ⟨e.id, e.name, some e.stage.text⟩

def isAt (e : StoredExperiment) (workspace id : String) : Bool := e.workspace == workspace && e.id == id

end StoredExperiment

namespace StoredRun

def report (r : StoredRun) : RunInfo :=
  ⟨r.id, r.experimentId, some r.status, some r.stage.text, some (artifactRoot r.experimentId r.id)⟩

def isAt (r : StoredRun) (workspace id : String) : Bool := r.workspace == workspace && r.id == id

/-- The run with an artifact at the end of its list, in the place of one of the same name. -/
def upload (r : StoredRun) (a : Artifact) : StoredRun :=
  { r with artifacts := (r.artifacts.filter (·.name ≠ a.name)) ++ [a] }

end StoredRun

def StoredModel.isAt (m : StoredModel) (workspace name : String) : Bool :=
  m.workspace == workspace && m.name == name

namespace Server

def empty : Server := ⟨0, [], [], [], []⟩

/-- The experiment of this name in a workspace. -/
def experiment? (s : Server) (workspace id : String) : Option StoredExperiment :=
  s.experiments.find? (·.isAt workspace id)

/-- The run of this name in a workspace. -/
def run? (s : Server) (workspace id : String) : Option StoredRun := s.runs.find? (·.isAt workspace id)

/-- The server with every experiment at a place changed. -/
def changeExperiment (s : Server) (workspace id : String)
    (f : StoredExperiment → StoredExperiment) : Server :=
  { s with experiments := s.experiments.map fun e => if e.isAt workspace id then f e else e }

/-- The server with every run at a place changed. -/
def changeRun (s : Server) (workspace id : String) (f : StoredRun → StoredRun) : Server :=
  { s with runs := s.runs.map fun r => if r.isAt workspace id then f r else r }

/-- The id in the URI of a logged model. -/
def loggedModelId (uri : String) : String := (Text.stripStart? modelScheme uri).getD uri

/-- **What a call does** in a workspace, once it is permitted. -/
def perform (s : Server) (workspace : String) :
    (call : TrackingCall) → Except Error call.Answer × Server
  | .createExperiment name =>
    let id := toString (s.counter + 1)
    (.ok id, { s with
      counter := s.counter + 1
      experiments := s.experiments ++ [⟨id, workspace, name, .active⟩] })
  | .getExperiment id =>
    match s.experiment? workspace id with
    | some e => (.ok e.report, s)
    | none => (.error (missing (.getExperiment id) ("Experiment " ++ id)), s)
  | .deleteExperiment id =>
    if (s.experiment? workspace id).isSome then
      (.ok (), s.changeExperiment workspace id fun e => { e with stage := .deleted })
    else (.error (missing (.deleteExperiment id) ("Experiment " ++ id)), s)
  | .createRun experimentId =>
    if s.experiments.any (·.id == experimentId) then
      let id := "run-" ++ toString (s.counter + 1)
      (.ok id, { s with
        counter := s.counter + 1
        runs := s.runs ++ [⟨id, workspace, experimentId, "RUNNING", .active, []⟩] })
    else (.error (missing (.createRun experimentId) ("Experiment " ++ experimentId)), s)
  | .getRun id =>
    match s.run? workspace id with
    | some r => (.ok r.report, s)
    | none => (.error (missing (.getRun id) ("Run " ++ id)), s)
  | .endRun id =>
    if (s.run? workspace id).isSome then
      (.ok (), s.changeRun workspace id fun r => { r with status := "FINISHED" })
    else (.error (missing (.endRun id) ("Run " ++ id)), s)
  | .deleteRun id =>
    if (s.run? workspace id).isSome then
      (.ok (), s.changeRun workspace id fun r => { r with stage := .deleted })
    else (.error (missing (.deleteRun id) ("Run " ++ id)), s)
  | .logArtifact id artifact =>
    if (s.run? workspace id).isSome then
      (.ok (), s.changeRun workspace id fun r => r.upload artifact)
    else (.error (missing (.logArtifact id artifact) ("Run " ++ id)), s)
  | .listArtifacts id =>
    match s.run? workspace id with
    | some r => (.ok (r.artifacts.map Artifact.name), s)
    | none => (.error (missing (.listArtifacts id) ("Run " ++ id)), s)
  | .downloadArtifact id path =>
    match s.run? workspace id with
    | some r =>
      match r.artifacts.find? (·.name == path) with
      | some a => (.ok a.content, s)
      | none => (.error (missing (.downloadArtifact id path) ("Artifact " ++ path)), s)
    | none => (.error (missing (.downloadArtifact id path) ("Run " ++ id)), s)
  | .logModel id model =>
    if (s.run? workspace id).isSome then
      let modelId := "m-" ++ toString (s.counter + 1)
      (.ok (modelScheme ++ modelId), { s with
        counter := s.counter + 1
        loggedModels := s.loggedModels ++ [(modelId, model)] })
    else (.error (missing (.logModel id model) ("Run " ++ id)), s)
  | .loadModel uri =>
    match s.loggedModels.find? (·.1 == loggedModelId uri) with
    | some (_, model) => (.ok model, s)
    | none => (.error (missing (.loadModel uri) ("Logged model " ++ loggedModelId uri)), s)
  | .createRegisteredModel name =>
    (.ok name, { s with
      models := (s.models.filter (! ·.isAt workspace name)) ++ [⟨workspace, name⟩] })
  | .getRegisteredModel name =>
    if s.models.any (·.isAt workspace name) then (.ok ⟨name, none⟩, s)
    else (.error (missing (.getRegisteredModel name) ("Registered Model " ++ name)), s)
  | .deleteRegisteredModel name =>
    if s.models.any (·.isAt workspace name) then
      (.ok (), { s with models := s.models.filter (! ·.isAt workspace name) })
    else (.error (missing (.deleteRegisteredModel name) ("Registered Model " ++ name)), s)

end Server

end GrantProbe
