import GrantProbe.Case.Catalogue
import GrantProbe.Proofs.Case.Move

/-!
# Stories

A case of the catalogue is one identity that takes actions one after the other, most of them with a
check. Its story says so by name, so that what a case does can be worked out before it is run.

* `Test`, with `Test.check`: the checks by name;
* `Beat`: an action with its check; `Story`, with `Story.case`: a case by name;
* `Case.story?`: reading the story off a case; `stories`, `map_case_stories`: the catalogue by
  name.
-/

namespace GrantProbe

/-- **The checks of the catalogue,** by name. -/
inductive Test where
  | actionDenied
  | experimentRetrieved | experimentCreated | experimentDeleted
  | runCreated | runDeleted | runFinished
  | artifactLogged | artifactDownloaded | storageVerified
  | modelLogged | modelLoaded
  | modelRetrieved | modelCreated | modelDeleted
  deriving DecidableEq, Repr

namespace Test

/-- Every test, in the order of the catalogue. -/
def all : List Test :=
  [actionDenied, experimentRetrieved, experimentCreated, experimentDeleted, runCreated, runDeleted,
    runFinished, artifactLogged, artifactDownloaded, storageVerified, modelLogged, modelLoaded,
    modelRetrieved, modelCreated, modelDeleted]

/-- The check of a test. -/
def check : Test → Check
  | actionDenied => Check.actionDenied
  | experimentRetrieved => Check.experimentRetrieved
  | experimentCreated => Check.experimentCreated
  | experimentDeleted => Check.experimentDeleted
  | runCreated => Check.runCreated
  | runDeleted => Check.runDeleted
  | runFinished => Check.runFinished
  | artifactLogged => Check.artifactLogged
  | artifactDownloaded => Check.artifactDownloaded
  | storageVerified => Check.storageVerified
  | modelLogged => Check.modelLogged
  | modelLoaded => Check.modelLoaded
  | modelRetrieved => Check.modelRetrieved
  | modelCreated => Check.modelCreated
  | modelDeleted => Check.modelDeleted

theorem expectsDenial_check (t : Test) : t.check.expectsDenial = decide (t = actionDenied) := by
  cases t <;> rfl

end Test

/-- **A beat:** an action, and the check that comes after it, if there is one. -/
structure Beat where
  move : Move
  test? : Option Test
  deriving DecidableEq, Repr

/-- The step of a beat. -/
def Beat.step (b : Beat) : Step :=
  { Step.named b.move.action.name with
    action := some b.move.action, check := b.test?.map Test.check }

/-- **A story:** the case of one identity, by name. -/
structure Story where
  name : String
  capability : Capability
  ref : ScopeRef
  beats : List Beat
  deriving Repr

/-- The case of a story. -/
def Story.case (s : Story) : Case :=
  Catalogue.grantedCase s.name s.capability s.ref (s.beats.map Beat.step)

/-! ## Reading stories off cases -/

/-- The beat of a step that acts, if its action and its check have the names of some. -/
def Step.beat? (s : Step) : Option Beat := do
  let action ← s.action
  let move ← Move.all.find? (·.action.name == action.name)
  pure ⟨move, s.check.bind fun check => Test.all.find? (·.check.name == check.name)⟩

/-- The story of a case whose first step becomes someone and goes somewhere. -/
def Case.story? (c : Case) : Option Story := do
  let first ← c.steps.head?
  let spec ← first.identity
  let ref ← first.scope
  let beats ← c.steps.mapM Step.beat?
  pure ⟨c.name, spec.capability, ref, beats⟩

/-- **The catalogue of cases,** as stories. -/
def stories : List Story := allCases.filterMap Case.story?

/-- Every case of the catalogue has a story, and it is the case of its story. -/
theorem map_case_stories : stories.map Story.case = allCases := rfl

end GrantProbe
