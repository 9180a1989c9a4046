import GrantProbe.Case.State

/-!
# The baseline

Before a suite the administrative identity seeds every workspace with one experiment, one run in it and
one registered model; after it they are removed.

* `seedScope`, `seedBaseline`: seeding; when it fails, all that was seeded anywhere is removed again;
* `removeBaseline`: removal, which never fails.
-/

namespace GrantProbe

/-- Nothing seeded yet. -/
def Baseline.nothing : Baseline := ⟨"", "", ""⟩

/-- Seeds one workspace. What was created before a failure is in the result. -/
def seedScope (setting : Setting) (scope : String) : Probe (Baseline × Option Error) := do
  let admin ← setting.adminClientFor scope
  let suffix ← Probe.suffix
  match ← (Probe.tracking admin (.createExperiment ("baseline-experiment-" ++ suffix))).attempt with
  | .error e => pure (.nothing, some e)
  | .ok experimentId =>
    match ← (Probe.tracking admin (.createRun experimentId)).attempt with
    | .error e => pure (⟨experimentId, "", ""⟩, some e)
    | .ok runId =>
      match ← (Probe.tracking admin
          (.createRegisteredModel ("baseline-model-" ++ suffix))).attempt with
      | .error e => pure (⟨experimentId, runId, ""⟩, some e)
      | .ok modelName => pure (⟨experimentId, runId, modelName⟩, none)

/-- Deletes a baseline resource that was created. -/
def removeSeeded (client : Client) (kind : Cleanable) (word id scope : String) :
    Probe CleanupReport :=
  if id.isEmpty then pure ⟨0, []⟩
  else do
    let failures ← reportFailure ("delete baseline " ++ word ++ " " ++ id ++ " in " ++ scope)
      (kind.delete client id)
    pure ⟨1, failures⟩

/-- Removes the baseline of one workspace, the model first and the experiment last. -/
def removeScope (setting : Setting) (scope : String) (b : Baseline) : Probe CleanupReport := do
  let admin ← setting.adminClientFor scope
  let model ← removeSeeded admin .model "model" b.modelName scope
  let run ← removeSeeded admin .run "run" b.runId scope
  let experiment ← removeSeeded admin .experiment "experiment" b.experimentId scope
  pure ((model.append run).append experiment)

/-- Removes the baselines of workspaces, one after the other. -/
def removeScopes (setting : Setting) : List (String × Baseline) → Probe CleanupReport
  | [] => pure ⟨0, []⟩
  | (scope, b) :: rest => do
    let first ← removeScope setting scope b
    let others ← removeScopes setting rest
    pure (first.append others)

/-- **Removing a baseline.** All deletions are attempted; one message for each that failed. -/
def removeBaseline (setting : Setting) (baseline : SortedMap Baseline) : Probe CleanupReport :=
  removeScopes setting baseline.entries

/-- Seeds workspaces in turn, adding to what has been seeded. -/
def seedScopes (setting : Setting) :
    List String → SortedMap Baseline → Probe (SortedMap Baseline)
  | [], seeded => pure seeded
  | scope :: rest, seeded => do
    let (b, problem) ← seedScope setting scope
    let seeded := seeded.insert scope b
    match problem with
    | none => seedScopes setting rest seeded
    | some e =>
      let _ ← removeBaseline setting seeded
      Task.fail e

/-- **Seeding the baseline** of every workspace. -/
def seedBaseline (setting : Setting) : Probe (SortedMap Baseline) :=
  seedScopes setting setting.scopes .empty

end GrantProbe
