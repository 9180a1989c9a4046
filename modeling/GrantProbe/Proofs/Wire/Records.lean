import GrantProbe.Failure.Document
import GrantProbe.Proofs.Json.Amending
import GrantProbe.Tracking.Document

/-!
# Records that come back from the wire

Experiments, registered models, runs and classified failures are read from the documents that they are
written as, and from any document that says the same: with more in it, in another order, or without
what need not be said.

* `Experiment.slots`, `Experiment.foundIn_document`, and the same for the other records;
* `records_come_back`: all four of them.
-/

namespace GrantProbe

open Json (Amended Slot)
open Json.RecordShape (goesUnsaid_of_slot)

/-! ## Experiments -/

namespace Experiment

def stageSlot : Slot Draft :=
  .ofTextOrNull "lifecycle_stage" true Draft.lifecycleStage
    (fun d v => { d with lifecycleStage := some v }) fun _ _ => rfl

/-- The fields of an experiment. -/
def slots : List (Slot Draft) := [
  .ofText "experiment_id" false Draft.experimentId (fun d v => { d with experimentId := some v })
    fun _ _ => rfl,
  .ofText "name" false Draft.name (fun d v => { d with name := some v }) fun _ _ => rfl,
  stageSlot]

theorem laidOut_shape : shape.LaidOut slots where
  fields_eq := rfl
  apart := by
    simp only [slots, List.pairwise_cons, List.forall_mem_cons, List.not_mem_nil, false_imp_iff,
      implies_true, and_true, List.Pairwise.nil]
    refine ⟨⟨?_, ?_⟩, ?_⟩ <;>
      exact ⟨by decide, fun _ _ _ => rfl, fun _ _ => rfl, fun _ _ => rfl⟩

theorem foundIn_document (e : Experiment) : shape.FoundIn slots e e.document := by
  obtain ⟨experimentId, name, _ | stage⟩ := e <;> exact .object rfl rfl

theorem goesUnsaid_stage : shape.GoesUnsaid slots ("lifecycle_stage", .null) := by
  refine goesUnsaid_of_slot laidOut_shape (s := stageSlot) (by simp [slots]) rfl ?_
  rintro ⟨experimentId, name, stage⟩ hfree
  obtain rfl : stage = none := hfree
  rfl

end Experiment

/-! ## Registered models -/

namespace RegisteredModel

def descriptionSlot : Slot Draft :=
  .ofTextOrNull "description" true Draft.description (fun d v => { d with description := some v })
    fun _ _ => rfl

/-- The fields of a registered model. -/
def slots : List (Slot Draft) := [
  .ofText "name" false Draft.name (fun d v => { d with name := some v }) fun _ _ => rfl,
  descriptionSlot]

theorem laidOut_shape : shape.LaidOut slots where
  fields_eq := rfl
  apart := by
    simp only [slots, List.pairwise_cons, List.forall_mem_cons, List.not_mem_nil, false_imp_iff,
      implies_true, and_true, List.Pairwise.nil]
    exact ⟨by decide, fun _ _ _ => rfl, fun _ _ => rfl, fun _ _ => rfl⟩

theorem foundIn_document (m : RegisteredModel) : shape.FoundIn slots m m.document := by
  obtain ⟨name, _ | description⟩ := m <;> exact .object rfl rfl

theorem goesUnsaid_description : shape.GoesUnsaid slots ("description", .null) := by
  refine goesUnsaid_of_slot laidOut_shape (s := descriptionSlot) (by simp [slots]) rfl ?_
  rintro ⟨name, description⟩ hfree
  obtain rfl : description = none := hfree
  rfl

end RegisteredModel

/-! ## Runs -/

namespace RunInfo

def experimentSlot : Slot Draft :=
  .ofText "experiment_id" true Draft.experimentId (fun d v => { d with experimentId := some v })
    fun _ _ => rfl

def statusSlot : Slot Draft :=
  .ofTextOrNull "status" true Draft.status (fun d v => { d with status := some v }) fun _ _ => rfl

def stageSlot : Slot Draft :=
  .ofTextOrNull "lifecycle_stage" true Draft.lifecycleStage
    (fun d v => { d with lifecycleStage := some v }) fun _ _ => rfl

def artifactSlot : Slot Draft :=
  .ofTextOrNull "artifact_uri" true Draft.artifactUri (fun d v => { d with artifactUri := some v })
    fun _ _ => rfl

/-- The fields of a run. -/
def slots : List (Slot Draft) := [
  .ofText "run_id" false Draft.runId (fun d v => { d with runId := some v }) fun _ _ => rfl,
  experimentSlot, statusSlot, stageSlot, artifactSlot]

theorem laidOut_shape : shape.LaidOut slots where
  fields_eq := rfl
  apart := by
    simp only [slots, List.pairwise_cons, List.forall_mem_cons, List.not_mem_nil, false_imp_iff,
      implies_true, and_true, List.Pairwise.nil]
    refine ⟨⟨?_, ?_, ?_, ?_⟩, ⟨?_, ?_, ?_⟩, ⟨?_, ?_⟩, ?_⟩ <;>
      exact ⟨by decide, fun _ _ _ => rfl, fun _ _ => rfl, fun _ _ => rfl⟩

theorem foundIn_document (r : RunInfo) : shape.FoundIn slots r r.document := by
  obtain ⟨runId, experimentId, _ | status, _ | stage, _ | uri⟩ := r <;> exact .object rfl rfl

/-- What a run may leave out: the experiment if it is empty, and the rest if it is null. -/
def unsaid : List (String × Json) :=
  [("experiment_id", .text ""), ("status", .null), ("lifecycle_stage", .null), ("artifact_uri", .null)]

theorem goesUnsaid_of_mem : ∀ member ∈ unsaid, shape.GoesUnsaid slots member := by
  have hslot (s : Slot Draft) (hs : s ∈ [experimentSlot, statusSlot, stageSlot, artifactSlot]) :
      s ∈ slots := List.mem_cons_of_mem _ hs
  simp only [unsaid, List.forall_mem_cons]
  refine ⟨goesUnsaid_of_slot laidOut_shape (hslot experimentSlot (by simp)) rfl ?_,
    goesUnsaid_of_slot laidOut_shape (hslot statusSlot (by simp)) rfl ?_,
    goesUnsaid_of_slot laidOut_shape (hslot stageSlot (by simp)) rfl ?_,
    goesUnsaid_of_slot laidOut_shape (hslot artifactSlot (by simp)) rfl ?_, by simp⟩
  -- the place of the field is empty, which the finished run does not tell from what is put there
  all_goals
    rintro ⟨runId, experimentId, status, stage, uri⟩ hfree
    cases hfree
    rfl

end RunInfo

/-! ## Failures -/

namespace Failure

def detailsSlot : Slot Draft :=
  .ofTextOrNull "details" false Draft.details (fun d v => { d with details := some v }) fun _ _ => rfl

/-- The fields of a failure. -/
def slots : List (Slot Draft) := [
  .ofName (FailureCode.all.map fun c => (c.text, c)) "code" false Draft.code
    (fun d v => { d with code := some v }) fun _ _ => rfl,
  .ofText "message" false Draft.message (fun d v => { d with message := some v }) fun _ _ => rfl,
  detailsSlot]

theorem laidOut_shape : shape.LaidOut slots where
  fields_eq := rfl
  apart := by
    simp only [slots, List.pairwise_cons, List.forall_mem_cons, List.not_mem_nil, false_imp_iff,
      implies_true, and_true, List.Pairwise.nil]
    refine ⟨⟨?_, ?_⟩, ?_⟩ <;>
      exact ⟨by decide, fun _ _ _ => rfl, fun _ _ => rfl, fun _ _ => rfl⟩

theorem foundIn_document (f : Failure) : shape.FoundIn slots f f.document := by
  obtain ⟨code, message, details⟩ := f
  cases code <;> cases details <;> exact .object rfl rfl

theorem goesUnsaid_details : shape.GoesUnsaid slots ("details", .null) := by
  refine goesUnsaid_of_slot laidOut_shape (s := detailsSlot) (by simp [slots]) rfl ?_
  rintro ⟨code, message, details⟩ hfree
  obtain rfl : details = none := hfree
  rfl

end Failure

/-! ## All of them -/

/-- **Records come back from the wire.** -/
theorem records_come_back :
    (∀ (e : Experiment) (j : Json),
      Amended Experiment.shape.keys [("lifecycle_stage", .null)] e.document j →
        Experiment.shape.ComesBack e j) ∧
    (∀ (m : RegisteredModel) (j : Json),
      Amended RegisteredModel.shape.keys [("description", .null)] m.document j →
        RegisteredModel.shape.ComesBack m j) ∧
    (∀ (r : RunInfo) (j : Json), Amended RunInfo.shape.keys RunInfo.unsaid r.document j →
      RunInfo.shape.ComesBack r j) ∧
    ∀ (f : Failure) (j : Json), Amended Failure.shape.keys [("details", .null)] f.document j →
      Failure.shape.ComesBack f j := by
  refine ⟨fun e j hj => ?_, fun m j hj => ?_, fun r j hj => ?_, fun f j hj => ?_⟩
  · exact Json.RecordShape.comesBack_of_amended Experiment.laidOut_shape
      (by simpa using Experiment.goesUnsaid_stage) e.foundIn_document hj
  · exact Json.RecordShape.comesBack_of_amended RegisteredModel.laidOut_shape
      (by simpa using RegisteredModel.goesUnsaid_description) m.foundIn_document hj
  · exact Json.RecordShape.comesBack_of_amended RunInfo.laidOut_shape RunInfo.goesUnsaid_of_mem
      r.foundIn_document hj
  · exact Json.RecordShape.comesBack_of_amended Failure.laidOut_shape
      (by simpa using Failure.goesUnsaid_details) f.foundIn_document hj

/-- A failure as it is written, a model in another order, an experiment that says more but not its
stage, and a run of which hardly anything is left; with quotes, a backslash, control characters and
a rocket. -/
theorem four_records_come_back :
    Failure.shape.read (.ofText
        "\x7b\"code\":\"FORBIDDEN\",\"message\":\"no \\\"entry\\\" \\\\ \\u0001\",\"details\":null\x7d") =
      .ok ⟨.forbidden, "no \"entry\" \\ \x01", none⟩ ∧
    RegisteredModel.shape.read (.ofText "\x7b\"description\":\"🚀\",\"name\":\"m\"\x7d") =
      .ok ⟨"m", some "🚀"⟩ ∧
    Experiment.shape.read (.ofText
        "\x7b\"tags\":[null,-7],\"name\":\"e\",\"experiment_id\":\"12\"\x7d") =
      .ok ⟨"12", "e", none⟩ ∧
    RunInfo.shape.read (.ofText "\x7b\"status\":\"FINISHED\\n\",\"run_id\":\"r\"\x7d") =
      .ok ⟨"r", "", some "FINISHED\n", none, none⟩ := by
  obtain ⟨hexperiment, hmodel, hrun, hfailure⟩ := records_come_back
  refine ⟨?failure, ?model, ?experiment, ?run⟩
  case failure =>
    have hback := (hfailure ⟨.forbidden, "no \"entry\" \\ \x01", none⟩ _ .asWritten).compact
    have htext : (Failure.document ⟨.forbidden, "no \"entry\" \\ \x01", none⟩).compact =
        "\x7b\"code\":\"FORBIDDEN\",\"message\":\"no \\\"entry\\\" \\\\ \\u0001\",\"details\":null\x7d" := by
      decide +kernel
    rwa [htext] at hback
  case model =>
    have hturned : Amended RegisteredModel.shape.keys [("description", .null)]
        (RegisteredModel.document ⟨"m", some "🚀"⟩)
        (.object [("description", .text "🚀"), ("name", .text "m")]) :=
      .reorder .asWritten (List.reverse_perm _).symm
    exact (hmodel _ _ hturned).compact
  case experiment =>
    have hturned : Amended Experiment.shape.keys [("lifecycle_stage", .null)]
        (Experiment.document ⟨"12", "e", none⟩)
        (.object [("lifecycle_stage", .null), ("name", .text "e"), ("experiment_id", .text "12")]) :=
      .reorder .asWritten (List.reverse_perm _).symm
    have hadded : Amended Experiment.shape.keys [("lifecycle_stage", .null)]
        (Experiment.document ⟨"12", "e", none⟩)
        (.object [("tags", .list [.null, .integer (-7)]), ("name", .text "e"),
          ("experiment_id", .text "12")]) :=
      .add (hturned.leaveOut List.mem_cons_self) (by decide) _
    exact (hexperiment _ _ hadded).compact
  case run =>
    have hturned : Amended RunInfo.shape.keys RunInfo.unsaid
        (RunInfo.document ⟨"r", "", some "FINISHED\n", none, none⟩)
        (.object [("artifact_uri", .null), ("lifecycle_stage", .null), ("status", .text "FINISHED\n"),
          ("experiment_id", .text ""), ("run_id", .text "r")]) :=
      .reorder .asWritten (List.reverse_perm _).symm
    have hshort := (hturned.leaveOut (by simp [RunInfo.unsaid])).leaveOut (by simp [RunInfo.unsaid])
    have hshorter := (hshort.reorder (.swap _ _ _)).leaveOut (by simp [RunInfo.unsaid])
    exact (hrun _ _ hshorter).compact

end GrantProbe
