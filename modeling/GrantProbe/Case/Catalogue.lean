import GrantProbe.Case.Run

/-!
# The catalogue of cases

Each case provisions one identity in the primary workspace, may move it to the secondary one, and checks
that every action is allowed or denied exactly as the grant says.

* `grantedCase`: a case whose first step becomes the identity;
* `experimentCases`, `runCases`, `artifactCases`, `modelCases`: the catalogue by resource, and `allCases`;
* `filterCases`: the cases whose name contains a text.
-/

namespace GrantProbe

namespace Catalogue

open GrantProbe.Action GrantProbe.Check

/-- A step that acts and checks. -/
def step (a : Action) (c : Check) : Step :=
  { Step.named a.name with action := some a, check := some c }

/-- A step that acts and tolerates failure: it only sets handles. -/
def setup (a : Action) : Step := { Step.named a.name with action := some a }

/-- The step, become an identity of the primary workspace and moved to a workspace. -/
def asGranted (capability : Capability) (scope : ScopeRef) (s : Step) : Step :=
  { s with identity := some ⟨.primary, capability⟩, scope := some scope }

/-- **A case of one identity:** the first step becomes it, and all steps run as it. -/
def grantedCase (name : String) (capability : Capability) (scope : ScopeRef) (steps : List Step) :
    Case :=
  match steps with
  | [] => ⟨name, []⟩
  | first :: rest => ⟨name, asGranted capability scope first :: rest⟩

/-- A preset on experiments. -/
def onExperiments (preset : RolePreset) : Capability := .ofPreset preset [.experiments]

/-- Verbs on registered models. -/
def onModels (verbs : List Verb) : Capability := ⟨verbs, [.registeredModels], none⟩

/-- An artifact is uploaded, listed and read back. -/
def artifactRoundTrip : List Step :=
  [step createRun runCreated, setup prepareArtifact, setup logArtifact,
    step listArtifacts artifactLogged, step downloadArtifact artifactDownloaded,
    step endRun runFinished]

/-- A model is logged and loaded back. -/
def modelRoundTrip : List Step :=
  [step createRun runCreated, setup trainModel, step logModel modelLogged,
    step loadModel modelLoaded, step endRun runFinished]

/-- No run can be started, and an upload to the existing one is refused as well. -/
def artifactUploadDenied : List Step :=
  [step createRun actionDenied, setup prepareArtifact, step logArtifact actionDenied]

/-- Cases on experiments. -/
def experimentCases : List Case := [
  grantedCase "read can get experiment" (onExperiments .read) .primary
    [step getExperiment experimentRetrieved],
  grantedCase "read cannot create experiment" (onExperiments .read) .primary
    [step createExperiment actionDenied],
  grantedCase "read in workspace 1 cannot get experiment in workspace 2"
    (onExperiments .read) .secondary [step getExperiment actionDenied],
  grantedCase "read cannot delete experiment" (onExperiments .read) .primary
    [setup getExperiment, step deleteExperiment actionDenied],
  grantedCase "edit can create experiment" (onExperiments .edit) .primary
    [step createExperiment experimentCreated],
  grantedCase "edit can delete experiment" (onExperiments .edit) .primary
    [step createExperiment experimentCreated, step deleteExperiment experimentDeleted],
  grantedCase "edit in workspace 1 cannot create experiment in workspace 2"
    (onExperiments .edit) .secondary [step createExperiment actionDenied],
  grantedCase "manage can create experiment" (onExperiments .manage) .primary
    [step createExperiment experimentCreated],
  grantedCase "manage in workspace 1 cannot create experiment in workspace 2"
    (onExperiments .manage) .secondary [step createExperiment actionDenied]]

/-- Cases on runs, which are authorized through their experiments. -/
def runCases : List Case := [
  grantedCase "edit can create run in baseline experiment" (onExperiments .edit) .primary
    [step createRun runCreated],
  grantedCase "read cannot create run" (onExperiments .read) .primary
    [step createRun actionDenied],
  grantedCase "edit can delete run" (onExperiments .edit) .primary
    [step createRun runCreated, step deleteRun runDeleted],
  grantedCase "read cannot delete run" (onExperiments .read) .primary
    [step deleteRun actionDenied]]

/-- Cases on artifacts and logged models, authorized like runs. -/
def artifactCases : List Case := [
  grantedCase "edit can log and download artifacts" (onExperiments .edit) .primary
    artifactRoundTrip,
  grantedCase "edit can log and load models" (onExperiments .edit) .primary
    modelRoundTrip,
  grantedCase "edit can verify artifact storage" (onExperiments .edit) .primary
    [step createRun runCreated, setup prepareArtifact, setup logArtifact,
      step getRunInfo storageVerified, step endRun runFinished],
  grantedCase "read cannot log artifacts" (onExperiments .read) .primary
    artifactUploadDenied,
  grantedCase "read cannot log models" (onExperiments .read) .primary
    [step createRun actionDenied, setup trainModel, step logModel actionDenied],
  grantedCase "read in workspace 1 cannot start run in workspace 2" (onExperiments .read) .secondary
    [step createRun actionDenied],
  grantedCase "edit in workspace 1 cannot log artifacts in workspace 2"
    (onExperiments .edit) .secondary artifactUploadDenied,
  grantedCase "manage can log and download artifacts" (onExperiments .manage) .primary
    artifactRoundTrip,
  grantedCase "manage can log and load models" (onExperiments .manage) .primary
    modelRoundTrip,
  grantedCase "manage in workspace 1 cannot log artifacts in workspace 2"
    (onExperiments .manage) .secondary artifactUploadDenied]

/-- Cases on registered models. -/
def modelCases : List Case := [
  grantedCase "get can get registered model" (onModels [.get]) .primary
    [step getRegisteredModel modelRetrieved],
  grantedCase "get cannot create registered model" (onModels [.get]) .primary
    [step createRegisteredModel actionDenied],
  grantedCase "get in workspace 1 cannot get registered model in workspace 2"
    (onModels [.get]) .secondary [step getRegisteredModel actionDenied],
  grantedCase "create can create registered model" (onModels [.create]) .primary
    [step createRegisteredModel modelCreated],
  grantedCase "get, create and delete can delete registered model"
    (onModels [.get, .create, .delete]) .primary [step createRegisteredModel modelCreated,
      step deleteRegisteredModel modelDeleted],
  grantedCase "create in workspace 1 cannot create registered model in workspace 2"
    (onModels [.create]) .secondary [step createRegisteredModel actionDenied],
  grantedCase "get cannot delete registered model" (onModels [.get]) .primary
    [setup getRegisteredModel, step deleteRegisteredModel actionDenied],
  grantedCase "create cannot delete registered model without delete" (onModels [.create]) .primary
    [step createRegisteredModel modelCreated, step deleteRegisteredModel actionDenied],
  grantedCase "delete cannot create registered model without create" (onModels [.delete]) .primary
    [step createRegisteredModel actionDenied],
  grantedCase "delete cannot get registered model without get" (onModels [.delete]) .primary
    [step getRegisteredModel actionDenied],
  grantedCase "update cannot create registered model without create" (onModels [.update]) .primary
    [step createRegisteredModel actionDenied],
  grantedCase "list cannot delete registered model without delete" (onModels [.list]) .primary
    [setup getRegisteredModel, step deleteRegisteredModel actionDenied]]

end Catalogue

open Catalogue in
/-- **Every case,** those on experiments first. -/
def allCases : List Case := experimentCases ++ runCases ++ artifactCases ++ modelCases

/-- The cases whose name contains a text, letter case aside; all of them without a text. -/
def filterCases (cases : List Case) : Option String → List Case
  | none => cases
  | some wanted =>
    let needle := Text.lowerChars wanted.toList
    cases.filter fun c => Text.occursIn needle (Text.lowerChars c.name.toList)

end GrantProbe
