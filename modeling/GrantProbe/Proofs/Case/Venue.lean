import GrantProbe.Proofs.Case.Prepare
import GrantProbe.Proofs.Case.Sketch
import GrantProbe.Proofs.Denial.Refusal
import GrantProbe.Proofs.World.Store

/-!
# What a sketch stands for

A case of the catalogue plays where its identity was established, before a background that it leaves
alone: the baseline, and what earlier cases have left behind. A sketch, with the values that came up
on the way, says exactly where a run of the case stands.

* `Venue`, with `Venue.Valid`: where a case plays;
* `Values`, with `Venue.Fits`: the ids, names and contents that came up;
* `Venue.point`: where the run stands;
* `Venue.experiment?_own` and its like: what the server holds there.
-/

namespace GrantProbe

/-- **Where a case plays:** in a workspace with its baseline, as an identity that has just been
established. -/
structure Venue where
  fx : Fixture
  place : String
  seeded : Baseline
  identity : Identity
  /-- The world once the identity has been established; its server is the background. -/
  world : World
  permits : Verb → ResourceKind → Bool
  /-- The model of the baseline is still registered. -/
  stocked : Bool
  /-- The line that cases train. -/
  line : LinearModel

/-- **What came up on the way.** Of what the case has not created yet, the values are those of
nothing. -/
structure Values where
  experiment : Nat
  run : Nat
  logged : Nat
  experimentName : String
  modelName : String
  artifact : Artifact
  counter : Nat
  draws : Nat
  lastError : Option Failure
  lastAction : Option ActionRecord

namespace Venue

section
variable (vn : Venue) (k : Sketch) (v : Values)

/-- The experiment of the case. -/
def ownExperiment (stage : Stage) : StoredExperiment :=
  ⟨toString v.experiment, vn.place, v.experimentName, stage⟩

/-- The run of the case, which is in the baseline experiment. -/
def ownRun (stage : Stage) : StoredRun where
  id := runIdOf v.run
  workspace := vn.place
  experimentId := vn.seeded.experimentId
  status := if k.finished then "FINISHED" else "RUNNING"
  stage := stage
  artifacts := if k.uploaded then [v.artifact] else []

/-- What the server stores: the background, and behind it what the case has created. -/
def server : Server where
  counter := v.counter
  experiments := vn.world.server.experiments ++
    k.experiment.own [vn.ownExperiment v .active] [vn.ownExperiment v .deleted]
  runs := vn.world.server.runs ++ k.run.own [vn.ownRun k v .active] [vn.ownRun k v .deleted]
  models := vn.world.server.models ++ k.model.own [⟨vn.place, v.modelName⟩] []
  loggedModels := vn.world.server.loggedModels ++
    if k.logged then [(loggedIdOf v.logged, vn.line)] else []

/-- The registry of a kind of which one resource is to be cleaned up, if any. -/
def registry (id : String) (t : Trail) : SortedMap String := ⟨t.own [(id, vn.place)] []⟩

/-- The state of the case. -/
def state : CaseState where
  identity := some vn.identity
  scope := vn.place
  client := some (vn.identity.clientIn vn.place)
  experimentId := k.experiment.handle vn.seeded.experimentId (toString v.experiment)
  runId := k.run.handle vn.seeded.runId (runIdOf v.run)
  modelName := k.model.handle vn.seeded.modelName v.modelName
  artifact := if k.prepared then some v.artifact else none
  artifactList := if k.listed then some [v.artifact.name] else none
  downloaded := if k.downloaded then some v.artifact.content else none
  trainedModel := if k.trained then some vn.line else none
  loggedModelUri := if k.logged then some (modelScheme ++ loggedIdOf v.logged) else none
  artifactLocation :=
    if k.located then some (artifactRoot vn.seeded.experimentId (runIdOf v.run)) else none
  experiments := vn.registry (toString v.experiment) k.experiment
  runs := vn.registry (runIdOf v.run) k.run
  models := vn.registry v.modelName k.model
  identities := [vn.identity]
  lastError := v.lastError
  lastAction := v.lastAction

/-- **Where the run stands.** -/
def point : Point World :=
  ⟨vn.state k v, { vn.world with server := vn.server k v, draws := v.draws }⟩

end

/-- **The venue is ready:** the baseline is there, nothing in the background is in the way of what
the case creates, and the identity is permitted what the venue says. -/
structure Valid (vn : Venue) : Prop where
  baseline : vn.fx.baseline.get? vn.place = some vn.seeded
  serves : vn.world.server.Serves vn.stocked vn.place vn.seeded
  runId : vn.seeded.runId.isEmpty = false
  experimentId : vn.seeded.experimentId.isEmpty = false
  modelName : vn.seeded.modelName.isEmpty = false
  numbered : vn.world.server.Numbered
  models : ∀ m ∈ vn.world.server.models, m.workspace = vn.place → ∃ x, m.name = "baseline-model-" ++ x
  permitted : ∀ verb kind,
    vn.world.permitsNeed (vn.identity.clientIn vn.place) (verb, kind) = vn.permits verb kind
  place : ∀ verb kind, vn.permits verb kind = true → Text.isAllBlank vn.place = false
  reference : LinearModel.reference = .ok vn.line
  loads : ∀ s : CaseState, s.trainedModel = some vn.line → Check.modelLoadedVerdict s = .ok ()

/-- **The values fit** a sketch: they are not those of the background, and the server has counted
those of what the case has created. -/
structure Fits (vn : Venue) (k : Sketch) (v : Values) : Prop where
  counter : vn.world.server.counter ≤ v.counter
  experiment : vn.world.server.counter < v.experiment
  run : vn.world.server.counter < v.run
  logged : vn.world.server.counter < v.logged
  experiment_le : k.experiment.isOwn = true → v.experiment ≤ v.counter
  run_le : k.run.isOwn = true → v.run ≤ v.counter
  logged_le : k.logged = true → v.logged ≤ v.counter
  model : IsTestModel v.modelName

/-- **The denial is on record,** if the sketch says that the last action was denied. -/
def Recalls (vn : Venue) (k : Sketch) (v : Values) : Prop :=
  k.denied = true → Check.denialVerdict (vn.state k v) = .ok ()

/-- The number of a resource is the one it had, or the server has just counted it. -/
def Advances (counter counter' number number' : Nat) (own own' : Bool) : Prop :=
  (number' = number ∧ (own' = true → own = true)) ∨ (counter < number' ∧ number' ≤ counter')

theorem Fits.advance {vn : Venue} {k k' : Sketch} {v v' : Values} (hv : vn.Fits k v)
    (hcounter : v.counter ≤ v'.counter)
    (hexperiment : Advances v.counter v'.counter v.experiment v'.experiment
      k.experiment.isOwn k'.experiment.isOwn)
    (hrun : Advances v.counter v'.counter v.run v'.run k.run.isOwn k'.run.isOwn)
    (hlogged : Advances v.counter v'.counter v.logged v'.logged k.logged k'.logged)
    (hmodel : IsTestModel v'.modelName) : vn.Fits k' v' := by
  have hlow := hv.counter
  have hbounds {n n' : Nat} {own own' : Bool} (h : Advances v.counter v'.counter n n' own own')
      (hn : vn.world.server.counter < n) (hle : own = true → n ≤ v.counter) :
      vn.world.server.counter < n' ∧ (own' = true → n' ≤ v'.counter) := by
    rcases h with ⟨rfl, hown⟩ | ⟨hlt, hle'⟩
    · exact ⟨hn, fun h => Nat.le_trans (hle (hown h)) hcounter⟩
    · exact ⟨by omega, fun _ => hle'⟩
  obtain ⟨he, he'⟩ := hbounds hexperiment hv.experiment hv.experiment_le
  obtain ⟨hr, hr'⟩ := hbounds hrun hv.run hv.run_le
  obtain ⟨hl, hl'⟩ := hbounds hlogged hv.logged hv.logged_le
  exact ⟨Nat.le_trans hlow hcounter, he, hr, hl, he', hr', hl', hmodel⟩

/-- The same values fit a sketch that has created the same. -/
theorem Fits.of_isOwn_eq {vn : Venue} {k k' : Sketch} {v : Values} (hv : vn.Fits k v)
    (hexperiment : k'.experiment.isOwn = k.experiment.isOwn)
    (hrun : k'.run.isOwn = k.run.isOwn) (hlogged : k'.logged = k.logged) : vn.Fits k' v :=
  hv.advance (Nat.le_refl _) (Or.inl ⟨rfl, fun h => hexperiment ▸ h⟩)
    (Or.inl ⟨rfl, fun h => hrun ▸ h⟩) (Or.inl ⟨rfl, fun h => hlogged ▸ h⟩) hv.model

end Venue

namespace Trail

variable {t : Trail}

theorem eq_of_not_isOwn (h : t.isOwn = false) : t = .untouched ∨ t = .sighted := by
  cases t with
  | untouched => exact Or.inl rfl
  | sighted => exact Or.inr rfl
  | made => cases h
  | removed => cases h

theorem own_of_not_isOwn (h : t.isOwn = false) {α : Type} (live gone : List α) :
    t.own live gone = [] := by
  rcases eq_of_not_isOwn h with rfl | rfl <;> rfl

end Trail

namespace Venue

variable {vn : Venue} {k : Sketch} {v : Values}

/-! ## What the case targets -/

namespace Valid

variable (h : vn.Valid)
include h

theorem baselineIn : vn.fx.baselineIn (vn.state k v) = some vn.seeded := h.baseline

theorem baselineExperiment :
    Action.baselineExperiment vn.fx (vn.state k v) = .ok vn.seeded.experimentId := by
  rw [Action.baselineExperiment, h.baselineIn]

theorem baselineModel : Action.baselineModel vn.fx (vn.state k v) = .ok vn.seeded.modelName := by
  rw [Action.baselineModel, h.baselineIn]

theorem baselineRun : Action.baselineRun vn.fx (vn.state k v) = .ok vn.seeded.runId := by
  rw [Action.baselineRun, h.baselineIn]
  simp [h.runId]

theorem targetExperiment : Action.targetExperiment vn.fx (vn.state k v) =
    .ok ((k.experiment.handle vn.seeded.experimentId (toString v.experiment)).getD
      vn.seeded.experimentId) := by
  have hhandle : (vn.state k v).experimentId =
      k.experiment.handle vn.seeded.experimentId (toString v.experiment) := rfl
  rw [Action.targetExperiment, h.baselineExperiment, hhandle]
  cases k.experiment <;> rfl

theorem targetRun : Action.targetRun vn.fx (vn.state k v) =
    .ok ((k.run.handle vn.seeded.runId (runIdOf v.run)).getD vn.seeded.runId) := by
  have hhandle : (vn.state k v).runId = k.run.handle vn.seeded.runId (runIdOf v.run) := rfl
  rw [Action.targetRun, h.baselineRun, hhandle]
  cases k.run <;> rfl

theorem targetModel : Action.targetModel vn.fx (vn.state k v) =
    .ok ((k.model.handle vn.seeded.modelName v.modelName).getD vn.seeded.modelName) := by
  have hhandle : (vn.state k v).modelName = k.model.handle vn.seeded.modelName v.modelName := rfl
  rw [Action.targetModel, h.baselineModel, hhandle]
  cases k.model <;> rfl

theorem permitsNeed_point (k : Sketch) (v : Values) (verb : Verb) (kind : ResourceKind) :
    (vn.point k v).world.permitsNeed (vn.identity.clientIn vn.place) (verb, kind) =
      vn.permits verb kind :=
  h.permitted verb kind

/-- No model of the background has the name and the place of one that a case creates. -/
theorem isAt_model (hname : IsTestModel v.modelName) :
    ∀ m ∈ vn.world.server.models, m.isAt vn.place v.modelName = false := by
  intro m hm
  by_cases hplace : m.workspace = vn.place
  · obtain ⟨x, hx⟩ := h.models m hm hplace
    have hne : m.name ≠ v.modelName := fun heq => hname.ne_baseline x (heq.symm.trans hx)
    rw [StoredModel.isAt, beq_eq_false_iff_ne.mpr hne, Bool.and_false]
  · rw [StoredModel.isAt, beq_eq_false_iff_ne.mpr hplace, Bool.false_and]

end Valid

/-! ## What the server holds -/

section
variable (h : vn.Valid) (hv : vn.Fits k v)
include h

theorem experiment?_seeded (k : Sketch) (v : Values) :
    ∃ e, (vn.server k v).experiment? vn.place vn.seeded.experimentId = some e ∧
      e.id = vn.seeded.experimentId := by
  obtain ⟨e, he⟩ := Option.isSome_iff_exists.mp h.serves.experiment
  have hat := List.find?_some he
  simp only [StoredExperiment.isAt, Bool.and_eq_true, beq_iff_eq] at hat
  unfold Server.experiment? at he ⊢
  refine ⟨e, ?_, hat.2⟩
  rw [server, List.find?_append, he, Option.some_or]

theorem any_seeded_experiment (k : Sketch) (v : Values) :
    (vn.server k v).experiments.any (·.id == vn.seeded.experimentId) = true := by
  obtain ⟨e, he, hid⟩ := experiment?_seeded h k v
  exact List.any_eq_true.mpr ⟨e, List.mem_of_find?_eq_some he, beq_iff_eq.mpr hid⟩

theorem any_seeded_model (hstocked : vn.stocked = true) (k : Sketch) (v : Values) :
    (vn.server k v).models.any (·.isAt vn.place vn.seeded.modelName) = true := by
  rw [server, List.any_append, h.serves.model, hstocked, Bool.true_or]

include hv

theorem experiment?_own (stage : Stage) (hk : k.experiment.own [vn.ownExperiment v .active]
    [vn.ownExperiment v .deleted] = [vn.ownExperiment v stage]) :
    (vn.server k v).experiment? vn.place (toString v.experiment) =
      some (vn.ownExperiment v stage) := by
  rw [Server.experiment?, server,
    find?_append_own (h.numbered.isAt_experiment hv.experiment vn.place), hk]
  simp [ownExperiment, StoredExperiment.isAt]

theorem run?_own (stage : Stage) (hk : k.run.own [vn.ownRun k v .active] [vn.ownRun k v .deleted] =
    [vn.ownRun k v stage]) :
    (vn.server k v).run? vn.place (runIdOf v.run) = some (vn.ownRun k v stage) := by
  rw [Server.run?, server, find?_append_own (h.numbered.isAt_run hv.run vn.place), hk]
  simp [ownRun, StoredRun.isAt]

theorem any_own_model : (vn.server k v).models.any (·.isAt vn.place v.modelName) =
    (k.model.own [StoredModel.mk vn.place v.modelName] []).any (·.isAt vn.place v.modelName) := by
  rw [server, any_append_own (h.isAt_model hv.model)]

/-- What is done to the experiment of the case is done to nothing else. -/
theorem changeExperiment_own (hk : k.experiment = .made) (f : StoredExperiment → StoredExperiment) :
    (vn.server k v).changeExperiment vn.place (toString v.experiment) f =
      { vn.server k v with
        experiments := vn.world.server.experiments ++ [f (vn.ownExperiment v .active)] } := by
  rw [Server.changeExperiment, server, hk,
    map_append_own (h.numbered.isAt_experiment hv.experiment vn.place)]
  simp [Trail.own, ownExperiment, StoredExperiment.isAt]

/-- What is done to the run of the case is done to nothing else. -/
theorem changeRun_own (hk : k.run = .made) (f : StoredRun → StoredRun) :
    (vn.server k v).changeRun vn.place (runIdOf v.run) f =
      { vn.server k v with runs := vn.world.server.runs ++ [f (vn.ownRun k v .active)] } := by
  rw [Server.changeRun, server, hk, map_append_own (h.numbered.isAt_run hv.run vn.place)]
  simp [Trail.own, ownRun, StoredRun.isAt]

end

end Venue

end GrantProbe
