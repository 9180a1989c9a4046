import GrantProbe.Proofs.Case.Prepare
import GrantProbe.Proofs.Denial.Origin
import GrantProbe.Proofs.Denial.Refusal
import GrantProbe.Proofs.World.Store

/-!
# The verdict on a denial is the truth

A case of one step becomes a new identity, goes somewhere, and takes one action for a denied one. In
a world that decides by the stored objects alone it passes exactly when the capability does not
permit the action there.

* `Fixture.Seeded`: the baseline is where the fixture says;
* `ends_probed`: a permitted action on a baseline does not end in a denial;
* `denial_verdict_is_truth`: the verdict, whatever the capability, the action and the workspace;
  `reader_cannot_create` is a case of it.
-/

namespace GrantProbe

open CaseTask (exec)

/-! ## Permitted actions -/

/-- **The baseline of a workspace is seeded:** the fixture has it, and the server holds it. -/
def Fixture.Seeded (fx : Fixture) (s : Server) (scope : String) : Prop :=
  ∃ b, fx.baseline.get? scope = some b ∧ s.Holds scope b

/-- The server carries the call out. -/
def Server.Answers (s : Server) (scope : String) (call : TrackingCall) : Prop :=
  ∃ r server, s.perform scope call = (.ok r, server)

namespace Server.Holds

variable {s : Server} {scope : String} {b : Baseline} (h : s.Holds scope b)
include h

theorem getExperiment : s.Answers scope (.getExperiment b.experimentId) := by
  obtain ⟨e, he⟩ := Option.isSome_iff_exists.mp h.experiment
  exact ⟨e.report, s, by simp [perform, he]⟩

theorem deleteExperiment : s.Answers scope (.deleteExperiment b.experimentId) :=
  ⟨(), _, if_pos h.experiment⟩

theorem createRun : s.Answers scope (.createRun b.experimentId) := by
  obtain ⟨e, he⟩ := Option.isSome_iff_exists.mp h.experiment
  have hfind : s.experiments.find? (·.isAt scope b.experimentId) = some e := he
  have hat := List.find?_some hfind
  simp only [StoredExperiment.isAt, Bool.and_eq_true] at hat
  have hany : s.experiments.any (·.id == b.experimentId) = true :=
    List.any_eq_true.mpr ⟨e, List.mem_of_find?_eq_some hfind, hat.2⟩
  exact ⟨_, _, if_pos hany⟩

theorem getRun : s.Answers scope (.getRun b.runId) := by
  obtain ⟨r, hr⟩ := Option.isSome_iff_exists.mp h.run
  exact ⟨r.report, s, by simp [perform, hr]⟩

theorem deleteRun : s.Answers scope (.deleteRun b.runId) :=
  ⟨(), _, if_pos h.run⟩

theorem logArtifact (a : Artifact) : s.Answers scope (.logArtifact b.runId a) :=
  ⟨(), _, if_pos h.run⟩

theorem listArtifacts : s.Answers scope (.listArtifacts b.runId) := by
  obtain ⟨r, hr⟩ := Option.isSome_iff_exists.mp h.run
  exact ⟨r.artifacts.map Artifact.name, s, by simp [perform, hr]⟩

theorem getRegisteredModel : s.Answers scope (.getRegisteredModel b.modelName) :=
  ⟨⟨b.modelName, none⟩, s, if_pos h.model⟩

theorem deleteRegisteredModel : s.Answers scope (.deleteRegisteredModel b.modelName) :=
  ⟨(), _, if_pos h.model⟩

end Server.Holds

/-- The moves that target the baseline or create something, so that they can be the only ones of a
case. -/
def probedMoves : List Move :=
  [.getExperiment, .createExperiment, .deleteExperiment, .createRun, .deleteRun, .getRunInfo,
    .logArtifact, .listArtifacts, .getRegisteredModel, .createRegisteredModel,
    .deleteRegisteredModel]

/-- The task ends, without a denial. -/
def EndsHarmlessly {α : Type} (draw : Nat → String) (p : Point World) (t : CaseTask α) : Prop :=
  ∃ q, (∃ a, exec (World.answerWith draw) t p = (.ok a, q)) ∨
    ∃ e, Harmless e ∧ exec (World.answerWith draw) t p = (.error (.error e), q)

section
variable {draw : Nat → String} {p : Point World} {client : Client}

theorem ends_modify (f : CaseState → CaseState) : EndsHarmlessly draw p (modify f) :=
  ⟨_, Or.inl ⟨_, CaseTask.exec_modify _ p f⟩⟩

theorem ends_register (kind : Cleanable) (id : String) (f : CaseState → CaseState) :
    EndsHarmlessly draw p (Action.registerHere kind id >>= fun _ => modify f) := by
  unfold Action.registerHere
  rw [EndsHarmlessly, bind_assoc]
  simp only [CaseTask.exec_bind_ok (CaseTask.exec_get _ p)]
  cases hr : p.state.register kind id p.state.scope with
  | ok s => exact ⟨_, Or.inl ⟨_, rfl⟩⟩
  | error e => exact ⟨_, Or.inr ⟨e, register_error hr, rfl⟩⟩

theorem EndsHarmlessly.exec_attempt {t : CaseTask Unit} (ht : EndsHarmlessly draw p t) :
    ∃ result q, exec (World.answerWith draw) t.attempt p = (.ok result, q) ∧
      ¬IsDenial (some result) := by
  obtain ⟨q, ⟨⟨⟩, hok⟩ | ⟨e, he, herr⟩⟩ := ht
  · exact ⟨.ok (), q, CaseTask.exec_attempt_ok hok, by simp [IsDenial]⟩
  · refine ⟨.error e, q, CaseTask.exec_attempt_error herr, ?_⟩
    rintro ⟨e', heq, hp⟩
    obtain rfl : e = e' := by simpa using heq
    exact absurd (he.symm.trans hp) (by simp)

theorem EndsHarmlessly.of_exec_eq {t u : CaseTask Unit} {q : Point World}
    (hu : EndsHarmlessly draw q u)
    (h : exec (World.answerWith draw) t p = exec (World.answerWith draw) u q) :
    EndsHarmlessly draw p t := by
  unfold EndsHarmlessly at hu ⊢
  rwa [h]

theorem ends_call (hc : p.state.client = some client) (call : TrackingCall)
    {need : Verb × ResourceKind} (hneed : call.needs = need)
    (hyes : p.world.permitsNeed client need = true)
    (hanswers : p.world.server.Answers client.workspace call) {k : call.Answer → CaseTask Unit}
    (hk : ∀ r server, EndsHarmlessly draw (p.withServer server) (k r)) :
    EndsHarmlessly draw p (Action.callAsActive call >>= k) := by
  obtain ⟨r, server, hr⟩ := hanswers
  exact (hk r server).of_exec_eq (exec_call_permitted hc call hneed hyes hr k)

theorem ends_check_get (f : CaseState → Except Error String) {id : String} (hf : f p.state = .ok id)
    {k : String → CaseTask Unit} (hk : EndsHarmlessly draw p (k id)) :
    EndsHarmlessly draw p (get >>= fun s => CaseTask.check (f s) >>= k) :=
  hk.of_exec_eq (exec_check_get f hf k)

/-- **A permitted action on a baseline does not end in a denial.** One case for each action. -/
theorem ends_probed {fx : Fixture} {move : Move} {need : Verb × ResourceKind} {b : Baseline}
    (hprobed : move ∈ probedMoves) (hneed : move.needs? = some need)
    (hc : p.state.client = some client) (hyes : p.world.permitsNeed client need = true)
    (hb : fx.baselineIn p.state = some b) (hold : p.world.server.Holds client.workspace b)
    (hexperiment : p.state.experimentId = none) (hrun : p.state.runId = none)
    (hmodel : p.state.modelName = none) (hartifact : p.state.artifact = none) :
    EndsHarmlessly draw p (move.action.run fx) := by
  have hbaseExperiment : Action.baselineExperiment fx p.state = .ok b.experimentId := by
    rw [Action.baselineExperiment, hb]
  have hbaseModel : Action.baselineModel fx p.state = .ok b.modelName := by
    rw [Action.baselineModel, hb]
  have htargetExperiment : Action.targetExperiment fx p.state = .ok b.experimentId := by
    rw [Action.targetExperiment, hexperiment]
    exact hbaseExperiment
  have htargetRun : Action.targetRun fx p.state = .ok b.runId := by
    simp [Action.targetRun, hrun, Action.handleOr, Action.baselineRun, hb, hold.runId]
  have htargetModel : Action.targetModel fx p.state = .ok b.modelName := by
    rw [Action.targetModel, hmodel]
    exact hbaseModel
  cases move <;> cases hneed
  case getExperiment =>
    refine ends_check_get (Action.baselineExperiment fx) hbaseExperiment ?_
    exact ends_call hc (.getExperiment b.experimentId) rfl hyes hold.getExperiment fun _ _ =>
      ends_modify _
  case createExperiment =>
    refine EndsHarmlessly.of_exec_eq (q := p.afterDraw) ?_ (exec_draw_world draw p _)
    exact ends_call (p := p.afterDraw) hc (.createExperiment _) rfl hyes ⟨_, _, rfl⟩ fun _ _ =>
      ends_register .experiment _ _
  case deleteExperiment =>
    refine ends_check_get (Action.targetExperiment fx) htargetExperiment ?_
    exact ends_call hc (.deleteExperiment b.experimentId) rfl hyes hold.deleteExperiment fun _ _ =>
      ends_modify _
  case createRun =>
    refine ends_check_get (Action.targetExperiment fx) htargetExperiment ?_
    exact ends_call hc (.createRun b.experimentId) rfl hyes hold.createRun fun _ _ =>
      ends_register .run _ _
  case deleteRun =>
    refine ends_check_get (Action.targetRun fx) htargetRun ?_
    exact ends_call hc (.deleteRun b.runId) rfl hyes hold.deleteRun fun _ _ => ends_modify _
  case getRunInfo =>
    refine ends_check_get (Action.targetRun fx) htargetRun ?_
    exact ends_call hc (.getRun b.runId) rfl hyes hold.getRun fun _ _ => ends_modify _
  case logArtifact =>
    refine ends_check_get (Action.targetRun fx) htargetRun ?_
    refine EndsHarmlessly.of_exec_eq ?_
      (CaseTask.exec_bind_ok (exec_artifactOrSample_none hartifact) _)
    obtain ⟨r, server, hr⟩ := hold.logArtifact (.sample (draw p.world.draws))
    exact ⟨_, Or.inl ⟨r, exec_callAsActive_permitted (p := p.afterSample draw) hc
      (.logArtifact b.runId (.sample (draw p.world.draws))) rfl hyes hr⟩⟩
  case listArtifacts =>
    refine ends_check_get (Action.targetRun fx) htargetRun ?_
    exact ends_call hc (.listArtifacts b.runId) rfl hyes hold.listArtifacts fun _ _ => ends_modify _
  case getRegisteredModel =>
    refine ends_check_get (Action.baselineModel fx) hbaseModel ?_
    exact ends_call hc (.getRegisteredModel b.modelName) rfl hyes hold.getRegisteredModel fun _ _ =>
      ends_modify _
  case createRegisteredModel =>
    refine EndsHarmlessly.of_exec_eq (q := p.afterDraw) ?_ (exec_draw_world draw p _)
    exact ends_call (p := p.afterDraw) hc (.createRegisteredModel _) rfl hyes ⟨_, _, rfl⟩ fun _ _ =>
      ends_register .model _ _
  case deleteRegisteredModel =>
    refine ends_check_get (Action.targetModel fx) htargetModel ?_
    exact ends_call hc (.deleteRegisteredModel b.modelName) rfl hyes hold.deleteRegisteredModel
      fun _ _ => ends_modify _
  all_goals exact absurd hprobed (by decide)

end

/-! ## A case of one step -/

section
variable {σ : Type} {h : Program.Handler probe σ} {fx : Fixture} {p q : Point σ}

theorem exec_runCase_single (name : String) (step : Step) :
    exec h (runCase fx ⟨name, [step]⟩) p =
      match exec h (runStep fx step) p with
      | (.ok report, q) => (.ok ⟨name, [report]⟩, q)
      | (.error e, q) => (.error e, q) := by
  simp only [runCase, runSteps, CaseTask.exec_bind]
  rcases exec h (runStep fx step) p with ⟨e | report, q⟩ <;> rfl

variable {step : Step} {action : Action} (ha : step.action = some action)
  (hc : step.check = some Check.actionDenied) {start : Point σ}
  (hprep : exec h (step.prepare fx) p = (.ok (), start))
include ha hc hprep

theorem exec_runStep_denied {e : Error}
    (hrun : exec h (action.run fx) start = (.error (.error e), q))
    (he : FailureCode.ofMessage e.message = .permissionDenied) :
    ∃ r, exec h (runStep fx step) p = (.ok ⟨step.name, q.state.identityName, q.state.scope,
      .failed .permissionDenied, some "action_denied"⟩, r) := by
  have hact : exec h (step.act fx) start =
      (.ok (.failed .permissionDenied),
        { q with state := q.state.recordFailure action.name e }) := by
    rw [exec_act, ha]
    simp only [CaseTask.exec_attempt_error hrun]
    rw [CaseState.classify, Failure.inContext, Failure.ofMessage, he]
  have hverdict : Check.denialVerdict (q.state.recordFailure action.name e) = .ok () := by
    have hre : Remembers (some (.error e)) (q.state.recordFailure action.name e) :=
      ⟨action.name, q.state.classify e, rfl, rfl, rfl⟩
    rw [hre.denialVerdict_iff]
    exact ⟨e, rfl, by rw [he]; rfl⟩
  refine ⟨{ q with state := q.state.recordFailure action.name e }, ?_⟩
  rw [exec_runStep, hprep]
  simp only [hact]
  rw [exec_verify_actionDenied hc]
  simp only [hverdict]
  rfl

/-- A step whose action is not denied fails the denial check, and leaves what its action has left. -/
theorem exec_runStep_not_denied {result : Except Error Unit}
    (hrun : exec h (action.run fx).attempt start = (.ok result, q))
    (hno : ¬IsDenial (some result)) :
    ∃ m s, (s = q.state.recordSuccess action.name ∨ ∃ e, s = q.state.recordFailure action.name e) ∧
      exec h (runStep fx step) p =
        (.error (.error (.failedCheck step.name "action_denied" m)), ⟨s, q.world⟩) := by
  have hres : step.result? fx h start = some result := by
    rw [Step.result?, ha]
    simp only [hrun]
    rfl
  obtain ⟨outcome, s, hs, hact⟩ : ∃ outcome s,
      (s = q.state.recordSuccess action.name ∨ ∃ e, s = q.state.recordFailure action.name e) ∧
        exec h (step.act fx) start = (.ok outcome, ⟨s, q.world⟩) := by
    rw [exec_act, ha]
    rcases result with e | _ <;> simp only [hrun]
    · exact ⟨_, _, Or.inr ⟨e, rfl⟩, rfl⟩
    · exact ⟨_, _, Or.inl rfl, rfl⟩
  obtain ⟨result', hres', hr⟩ := remembers_of_act fx h ha hact
  obtain rfl : result = result' := Option.some.inj (hres.symm.trans hres')
  cases hverdict : Check.denialVerdict s with
  | ok _ => exact absurd (hr.denialVerdict_iff.mp hverdict) hno
  | error m =>
    refine ⟨m, s, hs, ?_⟩
    rw [exec_runStep, hprep]
    simp only [hact]
    rw [exec_verify_actionDenied hc]
    simp only [hverdict]

end

/-! ## The verdict -/

section
variable {draw : Nat → String} {fx : Fixture} {w : World} {home away : String}

theorem ready_probed {s : CaseState} {b : Baseline} (hb : fx.baselineIn s = some b)
    (hrunId : b.runId.isEmpty = false) {move : Move} (hprobed : move ∈ probedMoves)
    (hexperiment : s.experimentId = none) (hrun : s.runId = none) (hmodel : s.modelName = none) :
    move.Ready fx s := by
  cases move <;>
    simp [Move.Ready, Action.targetExperiment, Action.targetRun, Action.targetModel, hexperiment,
      hrun, hmodel, Action.handleOr, Action.baselineExperiment, Action.baselineRun,
      Action.baselineModel, hb, hrunId]
  all_goals exact absurd hprobed (by decide)

/-- **The verdict on a denial is the truth.** The case of one step whose action is taken for a
denied one passes if and only if the capability does not permit the action in the workspace: the
action is in the secondary workspace, or its verb on its kind is neither among the capability's own
nor creation on a sub-resource. The case fails by its check alone, and ends abnormally only if a
delay of the verification's schedule cannot be represented. -/
theorem denial_verdict_is_truth (draw : Nat → String) (fx : Fixture) (w : World)
    {home away : String} (hscopes : fx.setting.scopes = [home, away]) (hne : home ≠ away)
    (hgroup : trackingGroup ∈ fx.setting.verifier.groups) (hlag : w.cluster.lag = 0)
    (henforce : w.enforce = true) (hnew : w.cluster.Lacks (fx.setting.nextName draw w) home)
    (hseeded : ∀ scope ∈ fx.setting.scopes, fx.Seeded w.server scope) (name : String)
    (c : Capability) (ref : ScopeRef) {move : Move} (hprobed : move ∈ probedMoves) {verb : Verb}
    {kind : ResourceKind} (hneed : move.needs? = some (verb, kind)) :
    match (exec (World.answerWith draw)
        (runCase fx (Catalogue.grantedCase name c ref
          [Catalogue.step move.action Check.actionDenied]))
        ⟨.fresh fx.setting.scopes, w⟩).1 with
    | .ok report =>
      ¬(ref = .primary ∧ c.permits verb kind = true) ∧
        report.steps.map StepReport.action = [.failed .permissionDenied]
    | .error (.error e) =>
      (ref = .primary ∧ c.permits verb kind = true) ∧
        ∃ m, e = .failedCheck move.action.name "action_denied" m
    | .error (.panic _) => ¬fx.setting.verifier.Settles := by
  have hhome : resolveScope fx.setting.scopes .primary = .ok home := by rw [hscopes]; rfl
  have hplace : resolveScope fx.setting.scopes ref = .ok (ref.choose home away) := by
    rw [hscopes, resolveScope_pair]
  have hmem : ref.choose home away ∈ fx.setting.scopes := by
    rw [hscopes]
    cases ref <;> simp [ScopeRef.choose]
  obtain ⟨b, hb, hold⟩ := hseeded _ hmem
  change match (exec (World.answerWith draw) (runCase fx ⟨name, [Catalogue.asGranted c ref
    (Catalogue.step move.action Check.actionDenied)]⟩) ⟨.fresh fx.setting.scopes, w⟩).1 with
    | .ok _ => _
    | .error (.error _) => _
    | .error (.panic _) => _
  rw [exec_runCase_single]
  obtain ⟨now, hprep | ⟨hno, x, q, hprep⟩⟩ :=
    exec_prepare_granted draw hhome hplace hlag hgroup hnew
    c (Catalogue.step move.action Check.actionDenied) (.fresh fx.setting.scopes)
  · -- the step starts as the new identity, where the case goes
    let start : Point World := ⟨CaseState.become (.fresh fx.setting.scopes)
      (fx.setting.nextIdentity draw w home) (ref.choose home away),
      (w.established (fx.setting.nextName draw w) home c).atTime now⟩
    let client : Client := (fx.setting.nextIdentity draw w home).clientIn (ref.choose home away)
    have hclient : start.state.client = some client := rfl
    have hbase : fx.baselineIn start.state = some b := hb
    have hpermits : start.world.permitsNeed client (verb, kind) =
        (ref == .primary && c.permits verb kind) := by
      rw [← choose_eq_home hne]
      exact permitsNeed_established henforce hnew c now verb kind
    cases htruth : (ref == .primary && c.permits verb kind) <;> rw [htruth] at hpermits
    · obtain ⟨call, q, -, -, hrun⟩ := exec_move_refused draw hneed
        (ready_probed hbase hold.runId hprobed rfl rfl rfl) hclient hpermits
      obtain ⟨r, hstep⟩ := exec_runStep_denied rfl rfl hprep hrun (code_refusal call)
      rw [hstep]
      refine ⟨?_, rfl⟩
      simpa [← Bool.and_eq_false_iff] using htruth
    · have hends : EndsHarmlessly draw start (move.action.run fx) :=
        ends_probed hprobed hneed hclient hpermits hbase hold rfl rfl rfl rfl
      obtain ⟨result, q, hrun, hno⟩ := hends.exec_attempt
      obtain ⟨m, r, -, hstep⟩ := exec_runStep_not_denied rfl rfl hprep hrun hno
      rw [hstep]
      exact ⟨by simpa using htruth, m, rfl⟩
  · rw [exec_runStep, hprep]
    exact hno

end

/-- Two workspaces with a baseline each. -/
def pairFixture : Fixture :=
  ⟨⟨["left", "right"], ⟨"admin-token"⟩, .standard, "test-user"⟩,
    .ofList [("left", ⟨"1", "run-2", "model-a"⟩), ("right", ⟨"3", "run-4", "model-b"⟩)]⟩

/-- A server that holds the baselines of `pairFixture`. -/
def pairServer : Server where
  counter := 4
  experiments := [⟨"1", "left", "baseline-a", .active⟩, ⟨"3", "right", "baseline-b", .active⟩]
  runs := [⟨"run-2", "left", "1", "RUNNING", .active, []⟩,
    ⟨"run-4", "right", "3", "RUNNING", .active, []⟩]
  models := [⟨"left", "model-a"⟩, ⟨"right", "model-b"⟩]
  loggedModels := []

/-- A world in which nothing has happened but the seeding. -/
def pairWorld : World := { World.fresh trackingGroup 0 true with server := pairServer }

theorem seeded_pairWorld {scope : String} (h : scope ∈ pairFixture.setting.scopes) :
    pairFixture.Seeded pairWorld.server scope := by
  have hscope : scope = "left" ∨ scope = "right" := by simpa [pairFixture] using h
  rcases hscope with rfl | rfl
  · exact ⟨_, rfl, rfl, rfl, rfl, rfl⟩
  · exact ⟨_, rfl, rfl, rfl, rfl, rfl⟩

theorem lacks_pairWorld (name scope : String) : pairWorld.cluster.Lacks name scope :=
  ⟨by simp [pairWorld, World.fresh, Cluster.empty],
    by simp [pairWorld, World.fresh, Cluster.empty],
    by simp [pairWorld, World.fresh, Cluster.empty],
    by simp [pairWorld, World.fresh, Cluster.empty]⟩

/-- Who may only read is denied the creation of an experiment. -/
theorem reader_cannot_create :
    ∃ report q, exec (World.answerWith toString)
        (runCase pairFixture (Catalogue.grantedCase "reader" (.ofPreset .read [.experiments])
          .primary [Catalogue.step Move.createExperiment.action Check.actionDenied]))
        ⟨.fresh pairFixture.setting.scopes, pairWorld⟩ = (.ok report, q) ∧
      report.steps.map StepReport.action = [.failed .permissionDenied] := by
  have hprobed : Move.createExperiment ∈ probedMoves := by decide
  have h := denial_verdict_is_truth toString pairFixture pairWorld rfl (by decide) (by decide) rfl
    rfl (lacks_pairWorld _ _) (fun _ => seeded_pairWorld) "reader" (.ofPreset .read [.experiments])
    .primary hprobed rfl
  rcases hrun : exec (World.answerWith toString)
      (runCase pairFixture (Catalogue.grantedCase "reader" (.ofPreset .read [.experiments]) .primary
        [Catalogue.step Move.createExperiment.action Check.actionDenied]))
      ⟨.fresh pairFixture.setting.scopes, pairWorld⟩ with ⟨(e | x) | report, q⟩ <;> rw [hrun] at h
  · exact absurd h.1.2 (by decide)
  · exact absurd (Or.inl rfl) h
  · exact ⟨report, q, rfl, h.2⟩

end GrantProbe
