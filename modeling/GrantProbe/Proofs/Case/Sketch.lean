import GrantProbe.Proofs.Case.Story
import GrantProbe.Proofs.World.Grant

/-!
# Rehearsing a story

What becomes of a case of the catalogue depends on little: which of its resources it has fetched,
created or deleted, what it has prepared and read back, and whether its last action was denied. A
sketch keeps that much, and a rehearsal goes through a story on sketches alone. It gives up where a
sketch cannot tell what happens.

* `Trail`: how far a case has come with a kind of resource; `Sketch`: how far it has come;
* `Sketch.perform`, `Sketch.act`, `Sketch.passes`: what an action does to a sketch, and the checks
  that pass;
* `Sketch.rehearse`: going through beats; `stories_succeed`: every story of the catalogue can be
  rehearsed.
-/

namespace GrantProbe

/-- **How far a case has come with a kind of resource:** it has no handle, it has fetched the
baseline, it has created one of its own, or it has deleted that again. -/
inductive Trail where
  | untouched | sighted | made | removed
  deriving DecidableEq, Repr

namespace Trail

/-- The case has created a resource. -/
def isOwn : Trail → Bool
  | untouched | sighted => false
  | made | removed => true

/-- The handle, given the baseline and what the case has created. -/
def handle (seeded own : String) : Trail → Option String
  | untouched => none
  | sighted => some seeded
  | made | removed => some own

/-- What is there of the case's own, by whether it has been deleted. -/
def own {α : Type} (live gone : List α) : Trail → List α
  | untouched | sighted => []
  | made => live
  | removed => gone

/-- What is left once the case has been torn down. -/
def cleared : Trail → Trail
  | made => removed
  | t => t

@[simp] theorem isOwn_cleared (t : Trail) : t.cleared.isOwn = t.isOwn := by
  cases t <;> rfl

end Trail

/-- **How far a case has come.** It creates one resource of each kind at most. -/
structure Sketch where
  experiment : Trail
  run : Trail
  model : Trail
  /-- The run that was created is finished. -/
  finished : Bool
  /-- An artifact is prepared, and what has been done with it. -/
  prepared : Bool
  uploaded : Bool
  listed : Bool
  downloaded : Bool
  /-- The artifact root of the run is known. -/
  located : Bool
  /-- A line is at hand, and has been logged. -/
  trained : Bool
  logged : Bool
  /-- The last action was denied. -/
  denied : Bool
  deriving DecidableEq, Repr

namespace Sketch

/-- Nothing has happened. -/
def blank : Sketch where
  experiment := .untouched
  run := .untouched
  model := .untouched
  finished := false
  prepared := false
  uploaded := false
  listed := false
  downloaded := false
  located := false
  trained := false
  logged := false
  denied := false

/-- The run of the case is there to be worked with. -/
def running (k : Sketch) : Bool := k.run == .made

/-- **What a move does** when it is permitted, or takes no permission. -/
def perform (k : Sketch) : Move → Option Sketch
  | .getExperiment => if k.experiment.isOwn then none else some { k with experiment := .sighted }
  | .createExperiment => if k.experiment.isOwn then none else some { k with experiment := .made }
  | .deleteExperiment =>
    if k.experiment = .made then some { k with experiment := .removed } else none
  | .createRun =>
    if k.experiment.isOwn || k.run.isOwn || k.located then none
    else some { k with run := .made, finished := false, uploaded := false }
  | .deleteRun => if k.running then some { k with run := .removed } else none
  | .endRun => if k.running then some { k with finished := true } else none
  | .getRunInfo => if k.running then some { k with located := true } else none
  | .prepareArtifact =>
    if k.prepared || k.uploaded || k.listed || k.downloaded then none
    else some { k with prepared := true }
  | .logArtifact =>
    if k.running && k.prepared && !k.uploaded then some { k with uploaded := true } else none
  | .listArtifacts => if k.running && k.uploaded then some { k with listed := true } else none
  | .downloadArtifact =>
    if k.running && k.prepared && k.uploaded then some { k with downloaded := true } else none
  | .trainModel => some { k with trained := true }
  | .logModel =>
    if k.running && k.trained && !k.logged then some { k with logged := true } else none
  | .loadModel => if k.logged then some { k with trained := true } else none
  | .getRegisteredModel => if k.model.isOwn then none else some { k with model := .sighted }
  | .createRegisteredModel => if k.model.isOwn then none else some { k with model := .made }
  | .deleteRegisteredModel => if k.model = .made then some { k with model := .removed } else none

/-- The move has what it acts on, and notes nothing before it calls the tracking service. -/
def ready (k : Sketch) : Move → Bool
  | .endRun => k.run != .untouched
  | .logArtifact | .downloadArtifact => k.prepared
  | .logModel => k.trained
  | .prepareArtifact | .trainModel | .loadModel => false
  | _ => true

/-- **What a move does:** it is carried out or denied, as what it takes is permitted or not. -/
def act (permits : Verb → ResourceKind → Bool) (k : Sketch) (m : Move) : Option Sketch :=
  match m.needs? with
  | none => (k.perform m).map fun k => { k with denied := false }
  | some (verb, kind) =>
    if permits verb kind then (k.perform m).map fun k => { k with denied := false }
    else if k.ready m then some { k with denied := true }
    else none

/-- **The test passes.** Those of an outcome ask the tracking service for it. -/
def passes (permits : Verb → ResourceKind → Bool) (k : Sketch) : Test → Bool
  | .actionDenied => k.denied
  | .experimentRetrieved | .experimentCreated => !k.denied && k.experiment != .untouched
  | .experimentDeleted => !k.denied && k.experiment == .removed && permits .get .experiments
  | .runCreated => !k.denied && k.run != .untouched
  | .runDeleted => !k.denied && k.run == .removed && permits .get .experiments
  | .runFinished => !k.denied && k.running && k.finished && permits .get .experiments
  | .artifactLogged => !k.denied && k.prepared && k.listed
  | .artifactDownloaded => !k.denied && k.prepared && k.downloaded
  | .storageVerified => !k.denied && k.located
  | .modelLogged => !k.denied && k.logged
  | .modelLoaded => !k.denied && k.trained
  | .modelRetrieved | .modelCreated => !k.denied && k.model != .untouched
  | .modelDeleted => !k.denied && k.model == .removed && permits .get .registeredModels

/-- **Going through beats,** up to one that cannot be told or whose test fails. -/
def rehearse (permits : Verb → ResourceKind → Bool) (k : Sketch) : List Beat → Option Sketch
  | [] => some k
  | b :: rest =>
    match k.act permits b.move with
    | none => none
    | some k => if b.test?.all (k.passes permits) then k.rehearse permits rest else none

/-- What is left of a case once it has been torn down. -/
def cleared (k : Sketch) : Sketch :=
  { k with experiment := k.experiment.cleared, run := k.run.cleared, model := k.model.cleared }

end Sketch

/-- What a story is permitted where it goes. -/
def Story.permits (s : Story) (verb : Verb) (kind : ResourceKind) : Bool :=
  s.ref == .primary && s.capability.permits verb kind

/-- **The story succeeds:** it has a beat, and its rehearsal comes to the end. -/
def Story.Succeeds (s : Story) : Prop :=
  s.beats ≠ [] ∧ ∃ k, Sketch.blank.rehearse s.permits s.beats = some k

/-- **Every story of the catalogue succeeds.** -/
theorem stories_succeed : ∀ s ∈ stories, s.Succeeds := by
  have hall : stories.all (fun s => !s.beats.isEmpty &&
      (Sketch.blank.rehearse s.permits s.beats).isSome) = true := by decide +kernel
  intro s hs
  have h := List.all_eq_true.mp hall s hs
  rw [Bool.and_eq_true, Option.isSome_iff_exists] at h
  exact ⟨by simpa using h.1, h.2⟩

end GrantProbe
