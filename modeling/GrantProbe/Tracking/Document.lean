import GrantProbe.Json.Fields
import GrantProbe.Json.Record
import GrantProbe.Tracking.Call

/-!
# Documents of the tracking service

How its records are written and read.

* `Experiment.document`, `Experiment.shape`, and the same for registered models and runs;
* `LinearModel.document`, `LinearModel.stored`, `LinearModel.load`: the stored form of a model.
-/

namespace GrantProbe

open Json (Reader Field RecordShape required)

/-! ## Experiments -/

/-- An experiment as JSON. -/
def Experiment.document (e : Experiment) : Json :=
  .object [("experiment_id", .text e.experimentId), ("name", .text e.name),
    ("lifecycle_stage", .textOrNull e.lifecycleStage)]

/-- What has been read of an experiment. -/
structure Experiment.Draft where
  experimentId : Option String
  name : Option String
  lifecycleStage : Option (Option String)

/-- **Experiments** as they are read. -/
def Experiment.shape : RecordShape Experiment.Draft Experiment where
  name := "Experiment"
  fields := [
    .of "experiment_id" false Draft.experimentId (fun d v => { d with experimentId := some v }) .text,
    .of "name" false Draft.name (fun d v => { d with name := some v }) .text,
    .of "lifecycle_stage" true Draft.lifecycleStage (fun d v => { d with lifecycleStage := some v })
      (.option .text)]
  blank := ⟨none, none, none⟩
  finish d := do
    let experimentId ← required "experiment_id" d.experimentId
    let name ← required "name" d.name
    return ⟨experimentId, name, d.lifecycleStage.join⟩

/-! ## Registered models -/

/-- A registered model as JSON. -/
def RegisteredModel.document (m : RegisteredModel) : Json :=
  .object [("name", .text m.name), ("description", .textOrNull m.description)]

/-- What has been read of a registered model. -/
structure RegisteredModel.Draft where
  name : Option String
  description : Option (Option String)

/-- **Registered models** as they are read. -/
def RegisteredModel.shape : RecordShape RegisteredModel.Draft RegisteredModel where
  name := "RegisteredModel"
  fields := [
    .of "name" false Draft.name (fun d v => { d with name := some v }) .text,
    .of "description" true Draft.description (fun d v => { d with description := some v })
      (.option .text)]
  blank := ⟨none, none⟩
  finish d := do
    let name ← required "name" d.name
    return ⟨name, d.description.join⟩

/-! ## Runs -/

/-- A run as JSON. -/
def RunInfo.document (r : RunInfo) : Json :=
  .object [("run_id", .text r.runId), ("experiment_id", .text r.experimentId),
    ("status", .textOrNull r.status), ("lifecycle_stage", .textOrNull r.lifecycleStage),
    ("artifact_uri", .textOrNull r.artifactUri)]

/-- What has been read of a run. -/
structure RunInfo.Draft where
  runId : Option String
  experimentId : Option String
  status : Option (Option String)
  lifecycleStage : Option (Option String)
  artifactUri : Option (Option String)

/-- **Runs** as they are read. The experiment may be left out, but is never null. -/
def RunInfo.shape : RecordShape RunInfo.Draft RunInfo where
  name := "RunInfo"
  fields := [
    .of "run_id" false Draft.runId (fun d v => { d with runId := some v }) .text,
    .of "experiment_id" true Draft.experimentId (fun d v => { d with experimentId := some v }) .text,
    .of "status" true Draft.status (fun d v => { d with status := some v }) (.option .text),
    .of "lifecycle_stage" true Draft.lifecycleStage (fun d v => { d with lifecycleStage := some v })
      (.option .text),
    .of "artifact_uri" true Draft.artifactUri (fun d v => { d with artifactUri := some v })
      (.option .text)]
  blank := ⟨none, none, none, none, none⟩
  finish d := do
    let runId ← required "run_id" d.runId
    return ⟨runId, d.experimentId.getD "", d.status.join, d.lifecycleStage.join, d.artifactUri.join⟩

/-! ## Linear models -/

/-- A model as JSON. -/
def LinearModel.document (m : LinearModel) : Json :=
  .object [("slope", .float m.slope), ("intercept", .float m.intercept)]

/-- A model as the pair of its numbers. -/
def LinearModel.pair (m : LinearModel) : Json := .list [.ofReal m.slope, .ofReal m.intercept]

/-- The model of a pair. -/
def LinearModel.ofPair? (j : Json) : Option LinearModel :=
  match (j.items?.getD []).map Json.real with
  | [slope, intercept] => some ⟨slope, intercept⟩
  | _ => none

/-- **The stored form** of a model. -/
def LinearModel.stored (m : LinearModel) : String := m.document.compact

/-- What has been read of a model. -/
structure LinearModel.Draft where
  slope : Option Float
  intercept : Option Float

/-- **Models** as they are read. -/
def LinearModel.shape : RecordShape LinearModel.Draft LinearModel where
  name := "LinearModel"
  fields := [
    .of "slope" false Draft.slope (fun d v => { d with slope := some v }) .float,
    .of "intercept" false Draft.intercept (fun d v => { d with intercept := some v }) .float]
  blank := ⟨none, none⟩
  finish d := do
    let slope ← required "slope" d.slope
    let intercept ← required "intercept" d.intercept
    return ⟨slope, intercept⟩

/-- **Reading a stored model.** -/
def LinearModel.load (bytes : Bytes) : Except Error LinearModel :=
  match LinearModel.shape.read (Json.Input.ofBytes bytes) with
  | .ok m => .ok m
  | .error e => .error (.invalidInput ("stored model is not readable: " ++ e.message))

end GrantProbe
