import GrantProbe.Identity.Credential
import GrantProbe.Task
import GrantProbe.Tracking.Model

/-!
# Calls to the tracking service

* `Experiment`, `RegisteredModel`, `RunInfo`: what the service reports;
* `Client`: an identity, its credential and the workspace it works in;
* `TrackingCall`: the operations, with their names and the type of the answer to each.
-/

namespace GrantProbe

/-- **An experiment.** Its lifecycle stage is `active` or `deleted`. -/
structure Experiment where
  experimentId : String
  name : String
  lifecycleStage : Option String
  deriving DecidableEq, Repr, Inhabited

/-- **A registered model.** -/
structure RegisteredModel where
  name : String
  description : Option String
  deriving DecidableEq, Repr, Inhabited

/-- **A run.** -/
structure RunInfo where
  runId : String
  experimentId : String
  status : Option String
  lifecycleStage : Option String
  artifactUri : Option String
  deriving DecidableEq, Repr, Inhabited

/-- **A client** of the tracking service, bound to one credential and one workspace. -/
structure Client where
  identity : String
  credential : Credential
  workspace : String
  deriving DecidableEq, Repr, Inhabited

/-- **The operations** of the tracking service. -/
inductive TrackingCall where
  | createExperiment (name : String)
  | getExperiment (id : String)
  | deleteExperiment (id : String)
  | createRun (experimentId : String)
  | getRun (id : String)
  | endRun (id : String)
  | deleteRun (id : String)
  | logArtifact (runId : String) (artifact : Artifact)
  | listArtifacts (runId : String)
  | downloadArtifact (runId path : String)
  | logModel (runId : String) (model : LinearModel)
  | loadModel (uri : String)
  | createRegisteredModel (name : String)
  | getRegisteredModel (name : String)
  | deleteRegisteredModel (name : String)

namespace TrackingCall

/-- The answer to a call that succeeds: the id, name, URI, record or content that was asked for. -/
abbrev Answer : TrackingCall → Type
  | createExperiment _ => String
  | getExperiment _ => Experiment
  | deleteExperiment _ => Unit
  | createRun _ => String
  | getRun _ => RunInfo
  | endRun _ => Unit
  | deleteRun _ => Unit
  | logArtifact .. => Unit
  | listArtifacts _ => List String
  | downloadArtifact .. => Bytes
  | logModel .. => String
  | loadModel _ => LinearModel
  | createRegisteredModel _ => String
  | getRegisteredModel _ => RegisteredModel
  | deleteRegisteredModel _ => Unit

/-- The name of an operation. -/
def name : TrackingCall → String
  | createExperiment _ => "create_experiment"
  | getExperiment _ => "get_experiment"
  | deleteExperiment _ => "delete_experiment"
  | createRun _ => "create_run"
  | getRun _ => "get_run"
  | endRun _ => "end_run"
  | deleteRun _ => "delete_run"
  | logArtifact .. => "log_artifact"
  | listArtifacts _ => "list_artifacts"
  | downloadArtifact .. => "download_artifact"
  | logModel .. => "log_model"
  | loadModel _ => "load_model"
  | createRegisteredModel _ => "create_registered_model"
  | getRegisteredModel _ => "get_registered_model"
  | deleteRegisteredModel _ => "delete_registered_model"

end TrackingCall

/-- The scheme of artifact roots that are served through the tracking service. -/
def proxiedScheme : String := "mlflow-artifacts:"

/-- What the URI of a logged model begins with. -/
def modelScheme : String := "models:/"

end GrantProbe
