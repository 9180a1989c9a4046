import GrantProbe.Case.State
import GrantProbe.Decimal.Layout

/-!
# Checks

What a step asserts of the state that its action left. A check reads the state, and may ask the tracking
service, but changes nothing.

* `Check`: a named assertion; `Check.expectsDenial` marks the one that runs after a failed action;
* `Check.actionDenied`: the last action failed for lack of permission;
* `allChecks`: the catalogue.
-/

namespace GrantProbe

/-- **A check.** The result is a message when it rejects the state. -/
structure Check where
  name : String
  expectsDenial : Bool
  test : Fixture → CaseState → Probe (Except String Unit)

namespace Check

/-- The verdict of a test that needs no one's answer. -/
def verdict (r : Except String Unit) : Probe (Except String Unit) := pure r

/-! ## Denials -/

/-- The last action ran, failed, and failed with a permission error. -/
def denialVerdict (s : CaseState) : Except String Unit :=
  match s.lastAction with
  | none => .error "no action ran before the denial check"
  | some action =>
    if !action.failed then
      .error ("action '" ++ action.name ++ "' should have been denied for " ++ s.identityName ++
        " in " ++ s.scope ++ ", but succeeded")
    else
      match s.lastError with
      | some f =>
        if f.code.isPermission then .ok ()
        else
          .error ("action '" ++ action.name ++ "' failed for the wrong reason: " ++ f.display)
      | none => .error ("action '" ++ action.name ++ "' failed without a recorded error")

/-- **The action was refused for lack of permission.** -/
def actionDenied : Check := ⟨"action_denied", true, fun _ s => verdict (denialVerdict s)⟩

/-! ## Handles -/

/-- A handle is set and not empty. -/
def handleVerdict (what : String) (handle : Option String) (s : CaseState) : Except String Unit :=
  match handle with
  | some id =>
    if id.isEmpty then .error (what ++ " not set for " ++ s.identityName) else .ok ()
  | none => .error (what ++ " not set for " ++ s.identityName)

/-- A check that a handle is set. -/
def handleSet (name what : String) (handle : CaseState → Option String) : Check :=
  ⟨name, false, fun _ s => verdict (handleVerdict what (handle s) s)⟩

def experimentRetrieved : Check := handleSet "experiment_retrieved" "experiment id" (·.experimentId)

def experimentCreated : Check := handleSet "experiment_created" "experiment id" (·.experimentId)

def runCreated : Check := handleSet "run_created" "run id" (·.runId)

def modelRetrieved : Check := handleSet "model_retrieved" "model name" (·.modelName)

def modelCreated : Check := handleSet "model_created" "model name" (·.modelName)

/-! ## Lifecycles -/

/-- A field of a record has the value it should have. -/
def expectField (what id field expected : String) (actual : Option String) : Except String Unit :=
  if actual = some expected then .ok ()
  else
    .error (what ++ " " ++ id ++ " " ++ field ++ " is " ++ Text.quotedOption actual ++
      " instead of " ++ Text.quoted expected)

/-- Asks the tracking service as the active identity, and goes on with the result. -/
def asking (s : CaseState) (call : TrackingCall)
    (test : Except Error call.Answer → Except String Unit) : Probe (Except String Unit) :=
  match s.activeClient with
  | .error e => verdict (.error e.message)
  | .ok client => do
    let result ← (Probe.tracking client call).attempt
    pure (test result)

/-- The experiment is in the stage `deleted`. -/
def experimentDeleted : Check where
  name := "experiment_deleted"
  expectsDenial := false
  test _ s :=
    match s.experimentId with
    | none => verdict (.error "experiment id not set after deletion")
    | some id => asking s (.getExperiment id) fun
      | .error e =>
        .error ("could not fetch experiment " ++ id ++ " after deletion: " ++ e.message)
      | .ok experiment =>
        expectField "experiment" id "lifecycle stage" "deleted" experiment.lifecycleStage

/-- A check of the current run as the service reports it. -/
def ofRun (name : String) (test : RunInfo → Except String Unit) : Check where
  name := name
  expectsDenial := false
  test _ s :=
    match s.runId with
    | none => verdict (.error ("run id not set for " ++ s.identityName))
    | some id => asking s (.getRun id) fun
      | .error e => .error ("could not fetch run " ++ id ++ ": " ++ e.message)
      | .ok run => test run

/-- The run is in the stage `deleted`. -/
def runDeleted : Check := ofRun "run_deleted" fun run =>
  expectField "run" run.runId "lifecycle stage" "deleted" run.lifecycleStage

/-- The run has the status `FINISHED`. -/
def runFinished : Check := ofRun "run_finished" fun run =>
  expectField "run" run.runId "status" "FINISHED" run.status

/-- The registered model is gone. -/
def modelDeleted : Check where
  name := "model_deleted"
  expectsDenial := false
  test _ s :=
    match s.modelName with
    | none => verdict (.error "model name not set after deletion")
    | some name => asking s (.getRegisteredModel name) fun
      | .ok _ => .error ("model " ++ name ++ " still exists after deletion")
      | .error e =>
        let failure := Failure.ofMessage e.message
        if failure.code = .resourceNotFound then .ok ()
        else
          .error ("unexpected error while confirming deletion of " ++ name ++ ": " ++
            failure.display)

/-! ## Artifacts and models -/

/-- The prepared artifact is in the listing. -/
def loggedVerdict (s : CaseState) : Except String Unit :=
  match s.artifact with
  | none => .error "no artifact was prepared"
  | some artifact =>
    match s.artifactList with
    | none => .error "artifacts were never listed"
    | some listed =>
      if listed.contains artifact.name then .ok ()
      else
        .error ("artifact " ++ artifact.name ++ " missing from listing " ++ Text.quotedList listed)

def artifactLogged : Check := ⟨"artifact_logged", false, fun _ s => verdict (loggedVerdict s)⟩

/-- The downloaded bytes are the uploaded ones. -/
def downloadedVerdict (s : CaseState) : Except String Unit :=
  match s.artifact with
  | none => .error "no artifact was prepared"
  | some artifact =>
    match s.downloaded with
    | none => .error ("artifact " ++ artifact.name ++ " was never downloaded")
    | some bytes =>
      if bytes = artifact.content then .ok ()
      else
        .error ("downloaded " ++ toString bytes.length ++ " bytes of " ++ artifact.name ++
          " differ from the " ++ toString artifact.content.length ++ " uploaded")

def artifactDownloaded : Check :=
  ⟨"artifact_downloaded", false, fun _ s => verdict (downloadedVerdict s)⟩

/-- The artifact root is served through the tracking service. -/
def storageVerdict (s : CaseState) : Except String Unit :=
  match s.artifactLocation with
  | none => .error "artifact location not recorded"
  | some uri =>
    if Text.startsWith proxiedScheme uri then .ok ()
    else .error ("artifact root " ++ uri ++ " is not served through the tracking service")

def storageVerified : Check := ⟨"storage_verified", false, fun _ s => verdict (storageVerdict s)⟩

/-- The URI of the logged model names a model. -/
def modelLoggedVerdict (s : CaseState) : Except String Unit :=
  match s.loggedModelUri with
  | none => .error "no model URI recorded"
  | some uri =>
    if Text.startsWith modelScheme uri then .ok ()
    else .error ("model URI " ++ uri ++ " does not start with " ++ modelScheme)

def modelLogged : Check := ⟨"model_logged", false, fun _ s => verdict (modelLoggedVerdict s)⟩

/-- The input whose prediction is checked, what it should be, and how far off it may be. -/
def predictionInput : Float := 4.0

def expectedPrediction : Float := 9.0

def predictionTolerance : Float := 0.1

/-- The loaded model predicts the line it was trained on. -/
def modelLoadedVerdict (s : CaseState) : Except String Unit :=
  match s.trainedModel with
  | none => .error "no model loaded"
  | some model =>
    let predicted := model.predict predictionInput
    if (predicted - expectedPrediction).abs ≤ predictionTolerance then .ok ()
    else
      .error ("loaded model predicts " ++ Decimal.inMessages.text predicted ++ " for " ++
        Decimal.inMessages.text predictionInput ++ " instead of " ++
        Decimal.inMessages.text expectedPrediction)

def modelLoaded : Check := ⟨"model_loaded", false, fun _ s => verdict (modelLoadedVerdict s)⟩

end Check

open Check in
/-- **The catalogue of checks.** -/
def allChecks : List Check :=
  [actionDenied, experimentRetrieved, experimentCreated, experimentDeleted, runCreated, runDeleted,
    runFinished, artifactLogged, artifactDownloaded, storageVerified, modelLogged, modelLoaded,
    modelRetrieved, modelCreated, modelDeleted]

end GrantProbe
