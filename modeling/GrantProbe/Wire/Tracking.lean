import GrantProbe.Tracking.Address
import GrantProbe.Tracking.Document
import GrantProbe.Tracking.Failure
import GrantProbe.Wire.Signature

/-!
# The tracking service over the wire

Calls to the tracking service by a client. A reply that is no success becomes an error with the service's own
words, which is what failures are classified by.

* `Service`: a client at an address; `Service.send`: one request and what its reply means;
* `Service.call`: an operation and the record that it answers;
* `Service.perform`: the calls.
-/

namespace GrantProbe

open Http (Method Request Reply Url)
open Json (Reader RecordShape)

/-! ## Records of replies -/

namespace Answers

def createdExperiment : Reader String :=
  (RecordShape.single "CreateExperimentResponse" "experiment_id" Reader.text).reader

def experiment : Reader Experiment :=
  (RecordShape.single "GetExperimentResponse" "experiment" Experiment.shape.reader).reader

def run : Reader RunInfo :=
  (RecordShape.single "RunResponse" "run"
    (RecordShape.single "Run" "info" RunInfo.shape.reader).reader).reader

/-- Files may be left out when there are none. -/
def files : RecordShape (Option (List String)) (List String) where
  name := "ListArtifactsResponse"
  fields := [.of "files" true id (fun _ v => some v)
    (.list (RecordShape.single "FileInfo" "path" Reader.text).reader)]
  blank := none
  finish d := .ok (d.getD [])

/-- A logged model: its id and the root of its artifacts. -/
structure LoggedModel where
  id : String
  root : String
  deriving DecidableEq, Repr, Inhabited

/-- What has been read of a logged model. -/
structure LoggedModel.Draft where
  id : Option String
  root : Option String

def LoggedModel.shape : RecordShape LoggedModel.Draft LoggedModel where
  name := "LoggedModelInfo"
  fields := [
    .of "model_id" false Draft.id (fun d v => { d with id := some v }) .text,
    .of "artifact_uri" false Draft.root (fun d v => { d with root := some v }) .text]
  blank := ⟨none, none⟩
  finish d := do
    let id ← Json.required "model_id" d.id
    let root ← Json.required "artifact_uri" d.root
    return ⟨id, root⟩

def loggedModel : Reader LoggedModel :=
  (RecordShape.single "LoggedModelResponse" "model"
    (RecordShape.single "LoggedModel" "info" LoggedModel.shape.reader).reader).reader

def registeredModel : Reader RegisteredModel :=
  (RecordShape.single "RegisteredModelResponse" "registered_model"
    RegisteredModel.shape.reader).reader

/-- An object of which nothing is asked. -/
def nothing : Reader Unit :=
  (RecordShape.mk "Empty" [] () Except.ok : RecordShape Unit Unit).reader

end Answers

/-! ## Requests -/

/-- **A client at an address.** -/
structure Service where
  endpoint : Endpoint
  client : Client

/-- The header that names the workspace. -/
def workspaceHeader : String := "x-mlflow-workspace"

/-- What a body holds. -/
inductive Content where
  | none
  | document (j : Json)
  | bytes (b : Bytes)

/-- The header that tells what a body holds. -/
def Content.headers : Content → List (String × String)
  | none => []
  | document _ => [("content-type", "application/json")]
  | bytes _ => [("content-type", "application/octet-stream")]

/-- The bytes of a body. -/
def Content.body : Content → Bytes
  | none => []
  | document j => utf8Bytes j.compact
  | bytes b => b

namespace Service

variable {α : Type}

/-- The headers of every request of a client. -/
def headers (s : Service) : List (String × String) :=
  [("authorization", "Bearer " ++ s.client.credential.token), (workspaceHeader, s.client.workspace)]

/-- The request to an address. -/
def request (s : Service) (method : Method) (url : Url) (content : Content) : Request :=
  ⟨method, url.target, s.headers ++ content.headers, content.body⟩

/-- The headers of a client can be sent. -/
def canSend (s : Service) : Bool := s.headers.all fun h => Http.isHeaderValue h.2

/-- **What a reply means:** status and body of a success, or an error in the service's words. -/
def replyBody (operation : String) (url : Url) : Reply → Except Error (Nat × Bytes)
  | .failed _ =>
    .error (.tracking operation 0
      ("request failed: error sending request for url (" ++ url.text ++ ")"))
  | .interrupted status =>
    .error (.tracking operation status "failed to read response: error decoding response body")
  | .response status body =>
    if Http.isSuccess status then .ok (status, body)
    else .error (.tracking operation status (failureText status (Text.lossy body)))

/-- The cause when no request can be made, of an address if it is one. -/
def unmade : Option Url → String
  | none => "builder error"
  | some url => "builder error for url (" ++ url.text ++ ")"

/-- **The address that a request goes to,** with parameters, or the cause when no request can be made. The
credentials of an address are not part of it. -/
def goal (s : Service) (address : String) (query : List (String × String)) : Except String Url :=
  match Url.parse? address with
  | none => .error (unmade none)
  | some url =>
    if url.host?.isNone then .error (unmade (some url))
    else if ¬ s.canSend then .error (unmade none)
    else
      let url := url.withoutCredentials.withQuery query
      if url.canAsk then .ok url else .error (unmade (some url))

/-- **Sends a request** to an address, with parameters, if one can be made. -/
def send (s : Service) (operation : String) (method : Method) (address : String)
    (query : List (String × String)) (content : Content) : Wire (Nat × Bytes) := do
  match s.goal address query with
  | .error cause => Task.fail (.tracking operation 0 ("request failed: " ++ cause))
  | .ok url =>
    let reply ← Wire.tracking url (s.request method url content)
    Task.check (replyBody operation url reply)

/-- **The record in a body.** A blank body stands for an empty object. -/
def decode (operation : String) (r : Reader α) (status : Nat) (body : Bytes) : Except Error α :=
  let text := Text.lossy body
  let text := if Text.isAllBlank text then "\x7b\x7d" else text
  match r.whole (Json.Input.ofText text) with
  | .ok a => .ok a
  | .error e => .error (.tracking operation status ("invalid response body: " ++ e.message))

/-- **An operation** and the record that it answers. -/
def call (s : Service) (operation : String) (method : Method) (path : String)
    (query : List (String × String)) (content : Content) (r : Reader α) : Wire α := do
  let (status, body) ← s.send operation method (apiAddress s.endpoint.baseUrl path) query content
  Task.check (decode operation r status body)

/-- An operation whose parameters are in its body. -/
def post (s : Service) (operation path : String) (entries : List (String × Json)) (r : Reader α) :
    Wire α :=
  s.call operation .post path [] (.document (.object entries)) r

/-- An operation whose parameter is in its address. -/
def lookUp (s : Service) (operation path key value : String) (r : Reader α) : Wire α :=
  s.call operation .get path [(key, value)] .none r

/-! ## Artifacts -/

/-- Uploads an artifact below a root. -/
def upload (s : Service) (operation root path : String) (content : Bytes) : Wire Unit := do
  let root ← Task.check (proxiedRoot root)
  let _ ← s.send operation .put (artifactAddress s.endpoint.baseUrl root path) [] (.bytes content)

/-- Downloads an artifact below a root. -/
def download (s : Service) (operation root path : String) : Wire Bytes := do
  let root ← Task.check (proxiedRoot root)
  let (_, body) ← s.send operation .get (artifactAddress s.endpoint.baseUrl root path) [] .none
  pure body

/-- Looks a run up. -/
def getRun (s : Service) (id : String) : Wire RunInfo :=
  s.lookUp "get_run" "runs/get" "run_id" id Answers.run

/-- The root of the artifacts of a run. -/
def artifactRootOf (s : Service) (operation id : String) : Wire String := do
  match (← s.getRun id).artifactUri with
  | some root => pure root
  | none => Task.fail (.tracking operation 200 ("run " ++ id ++ " has no artifact root"))

/-- The path of a logged model. -/
def loggedModelPath (id : String) : String := "logged-models/" ++ id

/-- **Logs a model:** it is announced, uploaded, and then declared ready. -/
def logModel (s : Service) (runId : String) (model : LinearModel) : Wire String := do
  let run ← s.getRun runId
  let created ← s.post "log_model" "logged-models"
    [("experiment_id", .text run.experimentId), ("name", .text loggedModelName),
      ("source_run_id", .text runId)] Answers.loggedModel
  s.upload "log_model" created.root modelFile (utf8Bytes model.stored)
  let _ ← s.call "log_model" .patch (loggedModelPath created.id) []
    (.document (.object [("model_id", .text created.id), ("status", .text "LOGGED_MODEL_READY")]))
    Answers.loggedModel
  pure (modelScheme ++ created.id)

/-- **Loads a model** that was logged. -/
def loadModel (s : Service) (uri : String) : Wire LinearModel := do
  let id ← Task.check (modelId uri)
  let found ← s.call "get_logged_model" .get (loggedModelPath id) [] .none Answers.loggedModel
  let stored ← s.download "load_model" found.root modelFile
  Task.check (LinearModel.load stored)

/-! ## Calls -/

/-- **The calls of a client.** -/
def perform (s : Service) : (c : TrackingCall) → Wire c.Answer
  | .createExperiment name =>
    s.post "create_experiment" "experiments/create" [("name", .text name)] Answers.createdExperiment
  | .getExperiment id =>
    s.lookUp "get_experiment" "experiments/get" "experiment_id" id Answers.experiment
  | .deleteExperiment id =>
    s.post "delete_experiment" "experiments/delete" [("experiment_id", .text id)] Answers.nothing
  | .createRun experimentId => do
    let run ← s.post "create_run" "runs/create" [("experiment_id", .text experimentId)] Answers.run
    pure run.runId
  | .getRun id => s.getRun id
  | .endRun id =>
    s.post "end_run" "runs/update" [("run_id", .text id), ("status", .text "FINISHED")]
      Answers.nothing
  | .deleteRun id => s.post "delete_run" "runs/delete" [("run_id", .text id)] Answers.nothing
  | .logArtifact id artifact => do
    let root ← s.artifactRootOf "log_artifact" id
    s.upload "log_artifact" root artifact.name artifact.content
  | .listArtifacts id =>
    s.lookUp "list_artifacts" "artifacts/list" "run_id" id Answers.files.reader
  | .downloadArtifact id path => do
    let root ← s.artifactRootOf "download_artifact" id
    s.download "download_artifact" root path
  | .logModel id model => s.logModel id model
  | .loadModel uri => s.loadModel uri
  | .createRegisteredModel name => do
    let model ← s.post "create_registered_model" "registered-models/create" [("name", .text name)]
      Answers.registeredModel
    pure model.name
  | .getRegisteredModel name =>
    s.lookUp "get_registered_model" "registered-models/get" "name" name Answers.registeredModel
  | .deleteRegisteredModel name =>
    s.call "delete_registered_model" .delete "registered-models/delete" []
      (.document (.object [("name", .text name)])) Answers.nothing

end Service

end GrantProbe
