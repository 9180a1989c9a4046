import GrantProbe.Case.State

/-!
# Actions

What a case does at the tracking service, as the active identity in the active workspace. An action that
reads targets the baseline of the workspace; one that deletes or writes targets the current handle, and
the baseline when no earlier step produced one. Whatever an action creates is registered for cleanup.

* `Action`: a named operation on the state of a case;
* `allActions`: the catalogue.
-/

namespace GrantProbe

/-- **An action.** -/
structure Action where
  name : String
  run : Fixture → CaseTask Unit

namespace Action

/-! ## Targets -/

/-- The error of a missing baseline resource. -/
def notSeeded (what scope : String) : Error :=
  .invalidInput ("no baseline " ++ what ++ " seeded in workspace " ++ scope)

/-- The baseline experiment. -/
def baselineExperiment (fx : Fixture) (s : CaseState) : Except Error String :=
  match fx.baselineIn s with
  | some b => .ok b.experimentId
  | none => .error (notSeeded "experiment" s.scope)

/-- The baseline run, if it has an id. -/
def baselineRun (fx : Fixture) (s : CaseState) : Except Error String :=
  match fx.baselineIn s with
  | some b => if b.runId.isEmpty then .error (notSeeded "run" s.scope) else .ok b.runId
  | none => .error (notSeeded "run" s.scope)

/-- The baseline registered model. -/
def baselineModel (fx : Fixture) (s : CaseState) : Except Error String :=
  match fx.baselineIn s with
  | some b => .ok b.modelName
  | none => .error (notSeeded "model" s.scope)

/-- A handle, or a baseline resource in its place. -/
def handleOr (handle : Option String) (fallback : Except Error String) : Except Error String :=
  match handle with
  | some id => .ok id
  | none => fallback

/-- A handle that has to be there. -/
def required {α : Type} (handle : Option α) (message : String) : Except Error α :=
  match handle with
  | some a => .ok a
  | none => .error (.invalidInput message)

/-- The current experiment, or the baseline. -/
def targetExperiment (fx : Fixture) (s : CaseState) : Except Error String :=
  handleOr s.experimentId (baselineExperiment fx s)

/-- The current run, or the baseline. -/
def targetRun (fx : Fixture) (s : CaseState) : Except Error String :=
  handleOr s.runId (baselineRun fx s)

/-- The current registered model, or the baseline. -/
def targetModel (fx : Fixture) (s : CaseState) : Except Error String :=
  handleOr s.modelName (baselineModel fx s)

/-- Calls the tracking service as the active identity. -/
def callAsActive (call : TrackingCall) : CaseTask call.Answer := do
  let s ← get
  let client ← CaseTask.check s.activeClient
  CaseTask.lift (Probe.tracking client call)

/-- Registers what was created in the active workspace. -/
def registerHere (kind : Cleanable) (id : String) : CaseTask Unit := do
  let s ← get
  let s ← CaseTask.check (s.register kind id s.scope)
  set s

/-! ## Experiments -/

/-- Fetches the baseline experiment. -/
def getExperiment : Action where
  name := "get_experiment"
  run fx := do
    let id ← CaseTask.check (baselineExperiment fx (← get))
    let e ← callAsActive (.getExperiment id)
    modify fun s => { s with experimentId := some e.experimentId }

/-- Creates an experiment. -/
def createExperiment : Action where
  name := "create_experiment"
  run _ := do
    let suffix ← CaseTask.lift Probe.suffix
    let id ← callAsActive (.createExperiment ("test-experiment-" ++ suffix))
    registerHere .experiment id
    modify fun s => { s with experimentId := some id }

/-- Deletes the current experiment, or the baseline. -/
def deleteExperiment : Action where
  name := "delete_experiment"
  run fx := do
    let id ← CaseTask.check (targetExperiment fx (← get))
    callAsActive (.deleteExperiment id)
    modify fun s => { s.forget .experiment id with experimentId := some id }

/-! ## Runs -/

/-- Starts a run in the current experiment, or the baseline. -/
def createRun : Action where
  name := "create_run"
  run fx := do
    let experimentId ← CaseTask.check (targetExperiment fx (← get))
    let id ← callAsActive (.createRun experimentId)
    registerHere .run id
    modify fun s => { s with runId := some id }

/-- Deletes the current run, or the baseline. -/
def deleteRun : Action where
  name := "delete_run"
  run fx := do
    let id ← CaseTask.check (targetRun fx (← get))
    callAsActive (.deleteRun id)
    modify fun s => { s.forget .run id with runId := some id }

/-- Marks the current run finished. -/
def endRun : Action where
  name := "end_run"
  run _ := do
    let id ← CaseTask.check (required (← get).runId "no run in this case; create one first")
    callAsActive (.endRun id)

/-- Fetches the current run, or the baseline, and keeps its artifact root. -/
def getRunInfo : Action where
  name := "get_run_info"
  run fx := do
    let id ← CaseTask.check (targetRun fx (← get))
    let info ← callAsActive (.getRun id)
    modify fun s => { s with artifactLocation := info.artifactUri }

/-! ## Artifacts -/

/-- Prepares an artifact. Nothing is sent. -/
def prepareArtifact : Action where
  name := "prepare_artifact"
  run _ := do
    let suffix ← CaseTask.lift Probe.suffix
    modify fun s => { s with artifact := some (.sample suffix) }

/-- The prepared artifact, which is prepared now if it was not. -/
def artifactOrSample : CaseTask Artifact := do
  match (← get).artifact with
  | some a => pure a
  | none =>
    let suffix ← CaseTask.lift Probe.suffix
    modify fun s => { s with artifact := some (.sample suffix) }
    pure (.sample suffix)

/-- Uploads the prepared artifact to the current run, or the baseline. -/
def logArtifact : Action where
  name := "log_artifact"
  run fx := do
    let id ← CaseTask.check (targetRun fx (← get))
    let artifact ← artifactOrSample
    callAsActive (.logArtifact id artifact)

/-- Lists the artifacts of the current run, or the baseline. -/
def listArtifacts : Action where
  name := "list_artifacts"
  run fx := do
    let id ← CaseTask.check (targetRun fx (← get))
    let paths ← callAsActive (.listArtifacts id)
    modify fun s => { s with artifactList := some paths }

/-- Downloads the prepared artifact from the current run, or the baseline. -/
def downloadArtifact : Action where
  name := "download_artifact"
  run fx := do
    let id ← CaseTask.check (targetRun fx (← get))
    let artifact ← CaseTask.check (required (← get).artifact "no artifact prepared to download")
    let bytes ← callAsActive (.downloadArtifact id artifact.name)
    modify fun s => { s with downloaded := some bytes }

/-! ## Models -/

/-- Fits the reference line. Nothing is sent. -/
def trainModel : Action where
  name := "train_model"
  run _ := do
    let model ← CaseTask.check LinearModel.reference
    modify fun s => { s with trainedModel := some model }

/-- Logs the trained model from the current run, or the baseline. -/
def logModel : Action where
  name := "log_model"
  run fx := do
    let id ← CaseTask.check (targetRun fx (← get))
    let model ← CaseTask.check (required (← get).trainedModel "no model trained to log")
    let uri ← callAsActive (.logModel id model)
    modify fun s => { s with loggedModelUri := some uri }

/-- Loads the logged model back. The trained one is dropped first, so it cannot pass for the loaded
one. -/
def loadModel : Action where
  name := "load_model"
  run _ := do
    let uri ← CaseTask.check (required (← get).loggedModelUri "no model logged to load")
    modify fun s => { s with trainedModel := none }
    let model ← callAsActive (.loadModel uri)
    modify fun s => { s with trainedModel := some model }

/-- Fetches the baseline registered model. -/
def getRegisteredModel : Action where
  name := "get_registered_model"
  run fx := do
    let name ← CaseTask.check (baselineModel fx (← get))
    let model ← callAsActive (.getRegisteredModel name)
    modify fun s => { s with modelName := some model.name }

/-- Registers a model. -/
def createRegisteredModel : Action where
  name := "create_registered_model"
  run _ := do
    let suffix ← CaseTask.lift Probe.suffix
    let name ← callAsActive (.createRegisteredModel ("test-model-" ++ suffix))
    registerHere .model name
    modify fun s => { s with modelName := some name }

/-- Deletes the current registered model, or the baseline. -/
def deleteRegisteredModel : Action where
  name := "delete_registered_model"
  run fx := do
    let name ← CaseTask.check (targetModel fx (← get))
    callAsActive (.deleteRegisteredModel name)
    modify fun s => { s.forget .model name with modelName := some name }

end Action

open GrantProbe.Action in
/-- **The catalogue of actions.** -/
def allActions : List Action :=
  [getExperiment, createExperiment, deleteExperiment, createRun, deleteRun, endRun, getRunInfo,
    prepareArtifact, logArtifact, listArtifacts, downloadArtifact, trainModel, logModel, loadModel,
    getRegisteredModel, createRegisteredModel, deleteRegisteredModel]

end GrantProbe
