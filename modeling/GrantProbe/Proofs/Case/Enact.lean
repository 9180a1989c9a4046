import GrantProbe.Proofs.Case.Venue

/-!
# Moves that are permitted

A move that is permitted takes the run from where a sketch says to where the sketch says next.

* `exec_registerHere_ok`: registering what has been created;
* `exec_getExperiment` and its like: one lemma for each move; `exec_perform`: all of them.
-/

namespace GrantProbe

open CaseTask (exec)

/-- The state with a resource registered for cleanup in the active workspace. -/
def CaseState.registered (s : CaseState) (kind : Cleanable) (id : String) : CaseState :=
  s.withRegistry kind ((s.registry kind).insert id s.scope)

theorem exec_registerHere_ok {σ : Type} {h : Program.Handler probe σ} {p : Point σ}
    (kind : Cleanable) {id : String} (hid : Text.isAllBlank id = false)
    (hscope : Text.isAllBlank p.state.scope = false) :
    exec h (Action.registerHere kind id) p =
      (.ok ⟨⟩, { p with state := p.state.registered kind id }) := by
  have hr : p.state.register kind id p.state.scope = .ok (p.state.registered kind id) := by
    rw [CaseState.register, hid, hscope]
    rfl
  unfold Action.registerHere
  rw [CaseTask.exec_bind_ok (CaseTask.exec_get h p), hr,
    CaseTask.exec_bind_ok (CaseTask.exec_check_ok h p _)]
  rfl

namespace Venue

section
variable {vn : Venue} {k : Sketch} {v : Values}

theorem forget_own (kind : Cleanable) {id : String}
    (hreg : (vn.state k v).registry kind = vn.registry id .made) :
    (vn.state k v).forget kind id = (vn.state k v).withRegistry kind (vn.registry id .removed) := by
  rw [CaseState.forget, hreg]
  simp [SortedMap.erase, registry, Trail.own]

variable (draw : Nat → String) (h : vn.Valid) (hv : vn.Fits k v)
include h

/-! ## Experiments -/

theorem exec_getExperiment (hk : k.experiment.isOwn = false)
    (hyes : vn.permits .get .experiments = true) :
    exec (World.answerWith draw) (Action.getExperiment.run vn.fx) (vn.point k v) =
      (.ok (), vn.point { k with experiment := .sighted } v) := by
  obtain ⟨e, he, hid⟩ := experiment?_seeded h k v
  have hr : (vn.server k v).perform vn.place (.getExperiment vn.seeded.experimentId) =
      (.ok e.report, vn.server k v) := by
    rw [Server.perform, he]
  refine (exec_check_get (Action.baselineExperiment vn.fx) h.baselineExperiment _).trans ?_
  refine (exec_call_permitted rfl (.getExperiment vn.seeded.experimentId) rfl
    ((h.permitsNeed_point k v _ _).trans hyes) hr _).trans ?_
  rw [CaseTask.exec_modify, StoredExperiment.report, hid]
  obtain ⟨x, _, _, _, _, _, _, _, _, _, _, _⟩ := k
  rcases Trail.eq_of_not_isOwn hk with rfl | rfl <;> rfl

/-- The values once an experiment has been created. -/
def afterExperiment (v : Values) (suffix : String) : Values :=
  { v with
    experiment := v.counter + 1, counter := v.counter + 1, draws := v.draws + 1
    experimentName := "test-experiment-" ++ suffix }

theorem exec_createExperiment (hk : k.experiment.isOwn = false)
    (hyes : vn.permits .create .experiments = true) :
    exec (World.answerWith draw) (Action.createExperiment.run vn.fx) (vn.point k v) =
      (.ok (), vn.point { k with experiment := .made } (afterExperiment v (draw v.draws))) := by
  have hr : (vn.server k v).perform vn.place
      (.createExperiment ("test-experiment-" ++ draw v.draws)) =
      (.ok (toString (v.counter + 1)),
        vn.server { k with experiment := .made } (afterExperiment v (draw v.draws))) := by
    rw [Server.perform]
    simp only [server, Trail.own_of_not_isOwn hk, List.append_nil]
    rfl
  refine (exec_draw_world draw (vn.point k v) _).trans ?_
  refine (exec_call_permitted (p := (vn.point k v).afterDraw) rfl
    (.createExperiment ("test-experiment-" ++ draw v.draws)) rfl
    ((h.permitsNeed_point k v _ _).trans hyes) hr _).trans ?_
  refine (CaseTask.exec_bind_ok (exec_registerHere_ok .experiment (isAllBlank_toString _)
    (h.place _ _ hyes)) _).trans ?_
  rw [CaseTask.exec_modify]
  obtain ⟨x, _, _, _, _, _, _, _, _, _, _, _⟩ := k
  rcases Trail.eq_of_not_isOwn hk with rfl | rfl <;> rfl

include hv in
theorem perform_deleteExperiment (hk : k.experiment = .made) :
    (vn.server k v).perform vn.place (.deleteExperiment (toString v.experiment)) =
      (.ok (), vn.server { k with experiment := .removed } v) := by
  rw [Server.perform, experiment?_own h hv .active (by rw [hk]; rfl), Option.isSome_some,
    if_pos rfl, changeExperiment_own h hv hk]
  rfl

include hv in
theorem exec_deleteExperiment (hk : k.experiment = .made)
    (hyes : vn.permits .delete .experiments = true) :
    exec (World.answerWith draw) (Action.deleteExperiment.run vn.fx) (vn.point k v) =
      (.ok (), vn.point { k with experiment := .removed } v) := by
  have hforget := forget_own (k := k) (v := v) .experiment
    (congrArg (vn.registry (toString v.experiment)) hk)
  have htarget : Action.targetExperiment vn.fx (vn.state k v) = .ok (toString v.experiment) := by
    rw [h.targetExperiment, hk]
    rfl
  refine (exec_check_get (Action.targetExperiment vn.fx) htarget _).trans ?_
  refine (exec_call_permitted rfl (.deleteExperiment (toString v.experiment)) rfl
    ((h.permitsNeed_point k v _ _).trans hyes) (perform_deleteExperiment h hv hk) _).trans ?_
  rw [CaseTask.exec_modify]
  change (_, Point.mk { (vn.state k v).forget .experiment (toString v.experiment) with
    experimentId := some (toString v.experiment) } _) = _
  rw [hforget]
  rfl

/-! ## Runs -/

/-- The values once a run has been created. -/
def afterRun (v : Values) : Values := { v with run := v.counter + 1, counter := v.counter + 1 }

theorem exec_createRun (hexperiment : k.experiment.isOwn = false) (hk : k.run.isOwn = false)
    (hlocated : k.located = false) (hyes : vn.permits .update .experiments = true) :
    exec (World.answerWith draw) (Action.createRun.run vn.fx) (vn.point k v) =
      (.ok (),
        vn.point { k with run := .made, finished := false, uploaded := false } (afterRun v)) := by
  have hr : (vn.server k v).perform vn.place (.createRun vn.seeded.experimentId) =
      (.ok (runIdOf (v.counter + 1)),
        vn.server { k with run := .made, finished := false, uploaded := false } (afterRun v)) := by
    rw [Server.perform, any_seeded_experiment h k v, if_pos rfl]
    simp only [server, Trail.own_of_not_isOwn hk, List.append_nil]
    rfl
  have htarget : Action.targetExperiment vn.fx (vn.state k v) = .ok vn.seeded.experimentId := by
    rw [h.targetExperiment]
    rcases Trail.eq_of_not_isOwn hexperiment with hx | hx <;> rw [hx] <;> rfl
  refine (exec_check_get (Action.targetExperiment vn.fx) htarget _).trans ?_
  refine (exec_call_permitted rfl (.createRun vn.seeded.experimentId) rfl
    ((h.permitsNeed_point k v _ _).trans hyes) hr _).trans ?_
  refine (CaseTask.exec_bind_ok (exec_registerHere_ok .run (isAllBlank_runIdOf _)
    (h.place _ _ hyes)) _).trans ?_
  rw [CaseTask.exec_modify]
  obtain ⟨_, r, _, _, _, _, _, _, l, _, _, _⟩ := k
  obtain rfl : l = false := hlocated
  rcases Trail.eq_of_not_isOwn hk with rfl | rfl <;> rfl

include hv

omit hv in
theorem targetRun_made (hk : k.run = .made) :
    Action.targetRun vn.fx (vn.state k v) = .ok (runIdOf v.run) := by
  rw [h.targetRun, hk]
  rfl

theorem perform_deleteRun (hk : k.run = .made) :
    (vn.server k v).perform vn.place (.deleteRun (runIdOf v.run)) =
      (.ok (), vn.server { k with run := .removed } v) := by
  rw [Server.perform, run?_own h hv .active (by rw [hk]; rfl), Option.isSome_some, if_pos rfl,
    changeRun_own h hv hk]
  rfl

theorem exec_deleteRun (hk : k.run = .made) (hyes : vn.permits .update .experiments = true) :
    exec (World.answerWith draw) (Action.deleteRun.run vn.fx) (vn.point k v) =
      (.ok (), vn.point { k with run := .removed } v) := by
  have hforget := forget_own (k := k) (v := v) .run (congrArg (vn.registry (runIdOf v.run)) hk)
  refine (exec_check_get (Action.targetRun vn.fx) (targetRun_made h hk) _).trans ?_
  refine (exec_call_permitted rfl (.deleteRun (runIdOf v.run)) rfl
    ((h.permitsNeed_point k v _ _).trans hyes) (perform_deleteRun h hv hk) _).trans ?_
  rw [CaseTask.exec_modify]
  change (_, Point.mk
    { (vn.state k v).forget .run (runIdOf v.run) with runId := some (runIdOf v.run) } _) = _
  rw [hforget]
  rfl

theorem exec_endRun (hk : k.run = .made) (hyes : vn.permits .update .experiments = true) :
    exec (World.answerWith draw) (Action.endRun.run vn.fx) (vn.point k v) =
      (.ok (), vn.point { k with finished := true } v) := by
  have hr : (vn.server k v).perform vn.place (.endRun (runIdOf v.run)) =
      (.ok (), vn.server { k with finished := true } v) := by
    rw [Server.perform, run?_own h hv .active (by rw [hk]; rfl), Option.isSome_some, if_pos rfl,
      changeRun_own h hv hk]
    simp only [server, hk]
    rfl
  have hid : (vn.state k v).runId = some (runIdOf v.run) := by
    change k.run.handle _ _ = _
    rw [hk]
    rfl
  refine (exec_check_get (fun s => Action.required s.runId _) (required_ok hid _) _).trans ?_
  exact exec_callAsActive_permitted rfl (.endRun (runIdOf v.run)) rfl
    ((h.permitsNeed_point k v _ _).trans hyes) hr

theorem exec_getRunInfo (hk : k.run = .made) (hyes : vn.permits .get .experiments = true) :
    exec (World.answerWith draw) (Action.getRunInfo.run vn.fx) (vn.point k v) =
      (.ok (), vn.point { k with located := true } v) := by
  have hr : (vn.server k v).perform vn.place (.getRun (runIdOf v.run)) =
      (.ok (vn.ownRun k v .active).report, vn.server k v) := by
    rw [Server.perform, run?_own h hv .active (by rw [hk]; rfl)]
  refine (exec_check_get (Action.targetRun vn.fx) (targetRun_made h hk) _).trans ?_
  refine (exec_call_permitted rfl (.getRun (runIdOf v.run)) rfl
    ((h.permitsNeed_point k v _ _).trans hyes) hr _).trans ?_
  rfl

/-! ## Artifacts -/

omit h hv in
theorem exec_prepareArtifact (huploaded : k.uploaded = false) (hlisted : k.listed = false)
    (hdownloaded : k.downloaded = false) :
    exec (World.answerWith draw) (Action.prepareArtifact.run vn.fx) (vn.point k v) =
      (.ok (), vn.point { k with prepared := true }
        { v with artifact := .sample (draw v.draws), draws := v.draws + 1 }) := by
  refine (exec_draw_world draw (vn.point k v) _).trans ?_
  rw [CaseTask.exec_modify]
  obtain ⟨_, _, _, _, _, u, l, d, _, _, _, _⟩ := k
  obtain rfl : u = false := huploaded
  obtain rfl : l = false := hlisted
  obtain rfl : d = false := hdownloaded
  rfl

omit h hv in
theorem artifact_prepared (hprepared : k.prepared = true) :
    (vn.state k v).artifact = some v.artifact :=
  if_pos hprepared

theorem exec_logArtifact (hk : k.run = .made) (hprepared : k.prepared = true)
    (huploaded : k.uploaded = false) (hyes : vn.permits .update .experiments = true) :
    exec (World.answerWith draw) (Action.logArtifact.run vn.fx) (vn.point k v) =
      (.ok (), vn.point { k with uploaded := true } v) := by
  have hr : (vn.server k v).perform vn.place (.logArtifact (runIdOf v.run) v.artifact) =
      (.ok (), vn.server { k with uploaded := true } v) := by
    rw [Server.perform, run?_own h hv .active (by rw [hk]; rfl), Option.isSome_some, if_pos rfl,
      changeRun_own h hv hk]
    simp only [server, hk, ownRun, StoredRun.upload, huploaded]
    rfl
  refine (exec_check_get (Action.targetRun vn.fx) (targetRun_made h hk) _).trans ?_
  refine (CaseTask.exec_bind_ok (exec_artifactOrSample (artifact_prepared hprepared)) _).trans ?_
  exact exec_callAsActive_permitted rfl (.logArtifact (runIdOf v.run) v.artifact) rfl
    ((h.permitsNeed_point k v _ _).trans hyes) hr

theorem exec_listArtifacts (hk : k.run = .made) (huploaded : k.uploaded = true)
    (hyes : vn.permits .get .experiments = true) :
    exec (World.answerWith draw) (Action.listArtifacts.run vn.fx) (vn.point k v) =
      (.ok (), vn.point { k with listed := true } v) := by
  have hr : (vn.server k v).perform vn.place (.listArtifacts (runIdOf v.run)) =
      (.ok [v.artifact.name], vn.server k v) := by
    rw [Server.perform, run?_own h hv .active (by rw [hk]; rfl)]
    simp only [ownRun, huploaded]
    rfl
  refine (exec_check_get (Action.targetRun vn.fx) (targetRun_made h hk) _).trans ?_
  refine (exec_call_permitted rfl (.listArtifacts (runIdOf v.run)) rfl
    ((h.permitsNeed_point k v _ _).trans hyes) hr _).trans ?_
  rfl

theorem exec_downloadArtifact (hk : k.run = .made) (hprepared : k.prepared = true)
    (huploaded : k.uploaded = true) (hyes : vn.permits .get .experiments = true) :
    exec (World.answerWith draw) (Action.downloadArtifact.run vn.fx) (vn.point k v) =
      (.ok (), vn.point { k with downloaded := true } v) := by
  have hr : (vn.server k v).perform vn.place (.downloadArtifact (runIdOf v.run) v.artifact.name) =
      (.ok v.artifact.content, vn.server k v) := by
    rw [Server.perform, run?_own h hv .active (by rw [hk]; rfl)]
    simp [ownRun, huploaded]
  refine (exec_check_get (Action.targetRun vn.fx) (targetRun_made h hk) _).trans ?_
  refine (exec_check_get (fun s => Action.required s.artifact _)
    (required_ok (artifact_prepared hprepared) _) _).trans ?_
  refine (exec_call_permitted rfl (.downloadArtifact (runIdOf v.run) v.artifact.name) rfl
    ((h.permitsNeed_point k v _ _).trans hyes) hr _).trans ?_
  rfl

/-! ## Logged models -/

omit hv in
theorem exec_trainModel :
    exec (World.answerWith draw) (Action.trainModel.run vn.fx) (vn.point k v) =
      (.ok (), vn.point { k with trained := true } v) := by
  have hrun : Action.trainModel.run vn.fx = (CaseTask.check LinearModel.reference >>= fun model =>
      modify fun s => { s with trainedModel := some model }) := rfl
  rw [hrun, h.reference, CaseTask.exec_bind_ok (CaseTask.exec_check_ok _ _ vn.line),
    CaseTask.exec_modify]
  rfl

/-- The values once a model has been logged. -/
def afterLogging (v : Values) : Values :=
  { v with logged := v.counter + 1, counter := v.counter + 1 }

theorem exec_logModel (hk : k.run = .made) (htrained : k.trained = true)
    (hlogged : k.logged = false) (hyes : vn.permits .update .experiments = true) :
    exec (World.answerWith draw) (Action.logModel.run vn.fx) (vn.point k v) =
      (.ok (), vn.point { k with logged := true } (afterLogging v)) := by
  have hr : (vn.server k v).perform vn.place (.logModel (runIdOf v.run) vn.line) =
      (.ok (modelScheme ++ loggedIdOf (v.counter + 1)),
        vn.server { k with logged := true } (afterLogging v)) := by
    rw [Server.perform, run?_own h hv .active (by rw [hk]; rfl), Option.isSome_some, if_pos rfl]
    simp only [server, hlogged, Bool.false_eq_true, if_false, List.append_nil]
    rfl
  have hmodel : (vn.state k v).trainedModel = some vn.line := if_pos htrained
  refine (exec_check_get (Action.targetRun vn.fx) (targetRun_made h hk) _).trans ?_
  refine (exec_check_get (fun s => Action.required s.trainedModel _)
    (required_ok hmodel _) _).trans ?_
  refine (exec_call_permitted rfl (.logModel (runIdOf v.run) vn.line) rfl
    ((h.permitsNeed_point k v _ _).trans hyes) hr _).trans ?_
  rfl

theorem exec_loadModel (hlogged : k.logged = true) (hyes : vn.permits .get .experiments = true) :
    exec (World.answerWith draw) (Action.loadModel.run vn.fx) (vn.point k v) =
      (.ok (), vn.point { k with trained := true } v) := by
  have hr : (vn.server k v).perform vn.place (.loadModel (modelScheme ++ loggedIdOf v.logged)) =
      (.ok vn.line, vn.server k v) := by
    have hfind : (vn.server k v).loggedModels.find? (·.1 == loggedIdOf v.logged) =
        some (loggedIdOf v.logged, vn.line) := by
      rw [server, find?_append_own (h.numbered.logged_ne hv.logged), if_pos hlogged]
      simp
    rw [Server.perform, Server.loggedModelId_append, hfind]
  have huri : (vn.state k v).loggedModelUri = some (modelScheme ++ loggedIdOf v.logged) :=
    if_pos hlogged
  refine (exec_check_get (fun s => Action.required s.loggedModelUri _)
    (required_ok huri _) _).trans ?_
  refine (CaseTask.exec_bind_ok (CaseTask.exec_modify ..) _).trans ?_
  -- the line is dropped before the call, and the loaded one takes its place
  refine (exec_call_permitted
    (p := ⟨{ vn.state k v with trainedModel := none }, (vn.point k v).world⟩) rfl
    (.loadModel (modelScheme ++ loggedIdOf v.logged)) rfl
    ((h.permitsNeed_point k v _ _).trans hyes) hr _).trans ?_
  rfl

/-! ## Registered models -/

omit hv in
theorem exec_getRegisteredModel (hstocked : vn.stocked = true) (hk : k.model.isOwn = false)
    (hyes : vn.permits .get .registeredModels = true) :
    exec (World.answerWith draw) (Action.getRegisteredModel.run vn.fx) (vn.point k v) =
      (.ok (), vn.point { k with model := .sighted } v) := by
  have hr : (vn.server k v).perform vn.place (.getRegisteredModel vn.seeded.modelName) =
      (.ok ⟨vn.seeded.modelName, none⟩, vn.server k v) := by
    rw [Server.perform, any_seeded_model h hstocked k v, if_pos rfl]
  refine (exec_check_get (Action.baselineModel vn.fx) h.baselineModel _).trans ?_
  refine (exec_call_permitted rfl (.getRegisteredModel vn.seeded.modelName) rfl
    ((h.permitsNeed_point k v _ _).trans hyes) hr _).trans ?_
  rw [CaseTask.exec_modify]
  obtain ⟨_, _, m, _, _, _, _, _, _, _, _, _⟩ := k
  rcases Trail.eq_of_not_isOwn hk with rfl | rfl <;> rfl

/-- The values once a model has been registered. -/
def afterModel (v : Values) (suffix : String) : Values :=
  { v with modelName := "test-model-" ++ suffix, draws := v.draws + 1 }

omit hv in
theorem exec_createRegisteredModel (hk : k.model.isOwn = false)
    (hsuffix : isSuffix (draw v.draws) = true)
    (hyes : vn.permits .create .registeredModels = true) :
    exec (World.answerWith draw) (Action.createRegisteredModel.run vn.fx) (vn.point k v) =
      (.ok (), vn.point { k with model := .made } (afterModel v (draw v.draws))) := by
  have hname : IsTestModel (afterModel v (draw v.draws)).modelName := ⟨_, hsuffix, rfl⟩
  have hr : (vn.server k v).perform vn.place
      (.createRegisteredModel ("test-model-" ++ draw v.draws)) =
      (.ok ("test-model-" ++ draw v.draws),
        vn.server { k with model := .made } (afterModel v (draw v.draws))) := by
    have hothers : (vn.server k v).models.filter
        (! ·.isAt vn.place ("test-model-" ++ draw v.draws)) =
        vn.world.server.models := by
      rw [server, Trail.own_of_not_isOwn hk]
      exact (filter_append_own (h.isAt_model hname) []).trans (List.append_nil _)
    rw [Server.perform, hothers]
    rfl
  have hblank : Text.isAllBlank ("test-model-" ++ draw v.draws) = false :=
    Text.isAllBlank_of_mem (c := 't') (by simp) (by decide)
  refine (exec_draw_world draw (vn.point k v) _).trans ?_
  refine (exec_call_permitted (p := (vn.point k v).afterDraw) rfl
    (.createRegisteredModel ("test-model-" ++ draw v.draws)) rfl
    ((h.permitsNeed_point k v _ _).trans hyes) hr _).trans ?_
  refine (CaseTask.exec_bind_ok (exec_registerHere_ok .model hblank (h.place _ _ hyes)) _).trans ?_
  rw [CaseTask.exec_modify]
  obtain ⟨_, _, m, _, _, _, _, _, _, _, _, _⟩ := k
  rcases Trail.eq_of_not_isOwn hk with rfl | rfl <;> rfl

theorem perform_deleteRegisteredModel (hk : k.model = .made) :
    (vn.server k v).perform vn.place (.deleteRegisteredModel v.modelName) =
      (.ok (), vn.server { k with model := .removed } v) := by
  have hany : (vn.server k v).models.any (·.isAt vn.place v.modelName) = true := by
    rw [any_own_model h hv, hk]
    simp [Trail.own, StoredModel.isAt]
  have hothers : (vn.server k v).models.filter (! ·.isAt vn.place v.modelName) =
      vn.world.server.models ++ [] := by
    rw [server, hk, filter_append_own (h.isAt_model hv.model)]
    simp [Trail.own, StoredModel.isAt]
  rw [Server.perform, hany, if_pos rfl, hothers]
  rfl

theorem exec_deleteRegisteredModel (hk : k.model = .made)
    (hyes : vn.permits .delete .registeredModels = true) :
    exec (World.answerWith draw) (Action.deleteRegisteredModel.run vn.fx) (vn.point k v) =
      (.ok (), vn.point { k with model := .removed } v) := by
  have hforget := forget_own (k := k) (v := v) .model (congrArg (vn.registry v.modelName) hk)
  have htarget : Action.targetModel vn.fx (vn.state k v) = .ok v.modelName := by
    rw [h.targetModel, hk]
    rfl
  refine (exec_check_get (Action.targetModel vn.fx) htarget _).trans ?_
  refine (exec_call_permitted rfl (.deleteRegisteredModel v.modelName) rfl
    ((h.permitsNeed_point k v _ _).trans hyes) (perform_deleteRegisteredModel h hv hk) _).trans ?_
  rw [CaseTask.exec_modify]
  change (_, Point.mk
    { (vn.state k v).forget .model v.modelName with modelName := some v.modelName } _) = _
  rw [hforget]
  rfl

/-! ## Every move -/

/-- **A permitted move** takes the run to where the sketch says next. One case for each move. -/
theorem exec_perform (hdraw : ∀ n, isSuffix (draw n) = true) {m : Move} {k' : Sketch}
    (hm : k.perform m = some k') (hstocked : m = .getRegisteredModel → vn.stocked = true)
    (hyes : ∀ verb kind, m.needs? = some (verb, kind) → vn.permits verb kind = true) :
    ∃ v', vn.Fits k' v' ∧
      exec (World.answerWith draw) (m.action.run vn.fx) (vn.point k v) =
        (.ok (), vn.point k' v') := by
  have hsame {n : Nat} {own : Bool} : Advances v.counter v.counter n n own own :=
    Or.inl ⟨rfl, fun h => h⟩
  have hnext {n : Nat} {own own' : Bool} :
      Advances v.counter (v.counter + 1) n (v.counter + 1) own own' :=
        Or.inr ⟨by omega, Nat.le_refl _⟩
  have hstays {n : Nat} {own : Bool} : Advances v.counter (v.counter + 1) n n own own :=
    Or.inl ⟨rfl, fun h => h⟩
  cases m <;> simp only [Sketch.perform, Option.ite_none_left_eq_some,
    Option.ite_none_right_eq_some, Option.some.injEq, Bool.not_eq_true, Bool.or_eq_false_iff,
    Bool.and_eq_true, Bool.not_eq_true', Sketch.running, beq_iff_eq] at hm
  case getExperiment =>
    obtain ⟨hk, rfl⟩ := hm
    exact ⟨v, hv.of_isOwn_eq hk.symm rfl rfl,
      exec_getExperiment draw h hk (hyes _ _ rfl)⟩
  case createExperiment =>
    obtain ⟨hk, rfl⟩ := hm
    exact ⟨afterExperiment v (draw v.draws),
      hv.advance (Nat.le_succ _) hnext hstays hstays hv.model,
      exec_createExperiment draw h hk (hyes _ _ rfl)⟩
  case deleteExperiment =>
    obtain ⟨hk, rfl⟩ := hm
    exact ⟨v, hv.of_isOwn_eq (by rw [hk]; rfl) rfl rfl,
      exec_deleteExperiment draw h hv hk (hyes _ _ rfl)⟩
  case createRun =>
    obtain ⟨⟨⟨hexperiment, hk⟩, hlocated⟩, rfl⟩ := hm
    exact ⟨afterRun v, hv.advance (Nat.le_succ _) hstays hnext hstays hv.model,
      exec_createRun draw h hexperiment hk hlocated (hyes _ _ rfl)⟩
  case deleteRun =>
    obtain ⟨hk, rfl⟩ := hm
    exact ⟨v, hv.of_isOwn_eq rfl (by rw [hk]; rfl) rfl,
      exec_deleteRun draw h hv hk (hyes _ _ rfl)⟩
  case endRun =>
    obtain ⟨hk, rfl⟩ := hm
    exact ⟨v, hv.of_isOwn_eq rfl rfl rfl,
      exec_endRun draw h hv hk (hyes _ _ rfl)⟩
  case getRunInfo =>
    obtain ⟨hk, rfl⟩ := hm
    exact ⟨v, hv.of_isOwn_eq rfl rfl rfl,
      exec_getRunInfo draw h hv hk (hyes _ _ rfl)⟩
  case prepareArtifact =>
    obtain ⟨⟨⟨⟨-, huploaded⟩, hlisted⟩, hdownloaded⟩, rfl⟩ := hm
    exact ⟨{ v with artifact := .sample (draw v.draws), draws := v.draws + 1 },
      hv.advance (Nat.le_refl _) hsame hsame hsame hv.model,
      exec_prepareArtifact draw huploaded hlisted hdownloaded⟩
  case logArtifact =>
    obtain ⟨⟨⟨hk, hprepared⟩, huploaded⟩, rfl⟩ := hm
    exact ⟨v, hv.of_isOwn_eq rfl rfl rfl,
      exec_logArtifact draw h hv hk hprepared huploaded (hyes _ _ rfl)⟩
  case listArtifacts =>
    obtain ⟨⟨hk, huploaded⟩, rfl⟩ := hm
    exact ⟨v, hv.of_isOwn_eq rfl rfl rfl,
      exec_listArtifacts draw h hv hk huploaded (hyes _ _ rfl)⟩
  case downloadArtifact =>
    obtain ⟨⟨⟨hk, hprepared⟩, huploaded⟩, rfl⟩ := hm
    exact ⟨v, hv.of_isOwn_eq rfl rfl rfl,
      exec_downloadArtifact draw h hv hk hprepared huploaded (hyes _ _ rfl)⟩
  case trainModel =>
    subst hm
    exact ⟨v, hv.of_isOwn_eq rfl rfl rfl, exec_trainModel draw h⟩
  case logModel =>
    obtain ⟨⟨⟨hk, htrained⟩, hlogged⟩, rfl⟩ := hm
    exact ⟨afterLogging v, hv.advance (Nat.le_succ _) hstays hstays hnext hv.model,
      exec_logModel draw h hv hk htrained hlogged (hyes _ _ rfl)⟩
  case loadModel =>
    obtain ⟨hlogged, rfl⟩ := hm
    exact ⟨v, hv.of_isOwn_eq rfl rfl rfl,
      exec_loadModel draw h hv hlogged (hyes _ _ rfl)⟩
  case getRegisteredModel =>
    obtain ⟨hk, rfl⟩ := hm
    exact ⟨v, hv.of_isOwn_eq rfl rfl rfl,
      exec_getRegisteredModel draw h (hstocked rfl) hk (hyes _ _ rfl)⟩
  case createRegisteredModel =>
    obtain ⟨hk, rfl⟩ := hm
    exact ⟨afterModel v (draw v.draws), hv.advance (Nat.le_refl _) hsame hsame hsame
      ⟨_, hdraw _, rfl⟩, exec_createRegisteredModel draw h hk (hdraw _) (hyes _ _ rfl)⟩
  case deleteRegisteredModel =>
    obtain ⟨hk, rfl⟩ := hm
    exact ⟨v, hv.of_isOwn_eq rfl rfl rfl,
      exec_deleteRegisteredModel draw h hv hk (hyes _ _ rfl)⟩

end

end Venue

end GrantProbe
