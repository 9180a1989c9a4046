import GrantProbe.Proofs.Case.Venue
import GrantProbe.Proofs.Sighting

/-!
# Checks that pass

A check that a sketch says passes does pass where the sketch says the run stands, and changes
nothing.

* `exec_asking_ok`, `exec_asking_error`: a check that asks the tracking service;
* `exec_test`: every check of the catalogue;
* `exec_verify_passes`: checking at the end of a step.
-/

namespace GrantProbe

open CaseTask (exec)

section
variable {σ : Type} {h : Program.Handler probe σ} {fx : Fixture} {w w' : σ} {s : CaseState}
  {client : Client}
  (hc : s.client = some client)
include hc

theorem activeClient_eq : s.activeClient = .ok client := by rw [CaseState.activeClient, hc]

theorem exec_asking_ok {call : TrackingCall} {r : call.Answer}
    (hr : h (.tracking client call) w = (.ok r, w'))
    (test : Except Error call.Answer → Except String Unit) :
    (Check.asking s call test).exec h w = (.ok (test (.ok r)), w') := by
  have hcall : (Probe.tracking client call).exec h w = (.ok r, w') := hr
  rw [Check.asking, activeClient_eq hc]
  exact (Task.exec_bind_ok (Task.exec_attempt_ok hcall) _).trans rfl

theorem exec_asking_error {call : TrackingCall} {e : Error}
    (hr : h (.tracking client call) w = (.error (.error e), w'))
    (test : Except Error call.Answer → Except String Unit) :
    (Check.asking s call test).exec h w = (.ok (test (.error e)), w') := by
  have hcall : (Probe.tracking client call).exec h w = (.error (.error e), w') := hr
  rw [Check.asking, activeClient_eq hc]
  exact (Task.exec_bind_ok (Task.exec_attempt_error hcall) _).trans rfl

theorem exec_ofRun {id : String} (hid : s.runId = some id) {run : RunInfo}
    (hr : h (.tracking client (.getRun id)) w = (.ok run, w')) (name : String)
    (test : RunInfo → Except String Unit) :
    ((Check.ofRun name test).test fx s).exec h w = (.ok (test run), w') := by
  simp only [Check.ofRun, hid]
  exact exec_asking_ok hc hr _

end

/-! ## Every check -/

namespace Venue

variable {vn : Venue} {k : Sketch} {v : Values} (draw : Nat → String) (h : vn.Valid)
  (hv : vn.Fits k v)

theorem handle_isEmpty {t : Trail} {seeded own : String} (ht : t ≠ .untouched)
    (hseeded : seeded.isEmpty = false) (hown : own.isEmpty = false) :
    ∃ id, t.handle seeded own = some id ∧ id.isEmpty = false := by
  cases t with
  | untouched => exact absurd rfl ht
  | sighted => exact ⟨seeded, rfl, hseeded⟩
  | made => exact ⟨own, rfl, hown⟩
  | removed => exact ⟨own, rfl, hown⟩

theorem handleVerdict_ok {what : String} {handle : Option String} {s : CaseState} {id : String}
    (hid : handle = some id) (hne : id.isEmpty = false) :
    Check.handleVerdict what handle s = .ok () := by
  rw [hid, Check.handleVerdict, hne]
  rfl

include h in
theorem experiment_set (hk : k.experiment ≠ .untouched) :
    Check.handleVerdict "experiment id" (vn.state k v).experimentId (vn.state k v) = .ok () := by
  obtain ⟨id, hid, hne⟩ := handle_isEmpty hk h.experimentId
    (Text.isEmpty_of_not_isAllBlank (isAllBlank_toString v.experiment))
  exact handleVerdict_ok hid hne

include h in
theorem run_set (hk : k.run ≠ .untouched) :
    Check.handleVerdict "run id" (vn.state k v).runId (vn.state k v) = .ok () := by
  obtain ⟨id, hid, hne⟩ := handle_isEmpty hk h.runId
    (Text.isEmpty_of_not_isAllBlank (isAllBlank_runIdOf v.run))
  exact handleVerdict_ok hid hne

include h hv in
theorem model_set (hk : k.model ≠ .untouched) :
    Check.handleVerdict "model name" (vn.state k v).modelName (vn.state k v) = .ok () := by
  have hname : v.modelName.isEmpty = false := by
    obtain ⟨x, -, hx⟩ := hv.model
    rw [hx, String.isEmpty_eq_false_iff]
    simp
  obtain ⟨id, hid, hne⟩ := handle_isEmpty hk h.modelName hname
  exact handleVerdict_ok hid hne

include h in
/-- What the service answers to a permitted call that leaves it as it is. -/
theorem answer_permitted (call : TrackingCall) (hyes : vn.permits call.needs.1 call.needs.2 = true)
    {r : call.Answer} (hr : (vn.server k v).perform vn.place call = (.ok r, vn.server k v)) :
    World.answerWith draw (.tracking (vn.identity.clientIn vn.place) call) (vn.point k v).world =
      (.ok r, (vn.point k v).world) :=
  answerWith_permitted (w := (vn.point k v).world) rfl ((h.permitsNeed_point k v _ _).trans hyes) hr

include h in
theorem answer_failed (call : TrackingCall) (hyes : vn.permits call.needs.1 call.needs.2 = true)
    {e : Error} (hr : (vn.server k v).perform vn.place call = (.error e, vn.server k v)) :
    World.answerWith draw (.tracking (vn.identity.clientIn vn.place) call) (vn.point k v).world =
      (.error (.error e), (vn.point k v).world) :=
  answerWith_failed (w := (vn.point k v).world) rfl ((h.permitsNeed_point k v _ _).trans hyes) hr

include h hv

theorem exec_experimentDeleted (hk : k.experiment = .removed)
    (hyes : vn.permits .get .experiments = true) :
    (Check.experimentDeleted.test vn.fx (vn.state k v)).exec (World.answerWith draw)
        (vn.point k v).world =
      (.ok (.ok ()), (vn.point k v).world) := by
  have hid : (vn.state k v).experimentId = some (toString v.experiment) := by
    change k.experiment.handle _ _ = _
    rw [hk]
    rfl
  have hr : (vn.server k v).perform vn.place (.getExperiment (toString v.experiment)) =
      (.ok (vn.ownExperiment v .deleted).report, vn.server k v) := by
    rw [Server.perform, experiment?_own h hv .deleted (by rw [hk]; rfl)]
  simp only [Check.experimentDeleted, hid]
  exact exec_asking_ok rfl
    (answer_permitted draw h (.getExperiment (toString v.experiment)) hyes hr) _

theorem answer_getRun (stage : Stage)
    (hk : k.run.own [vn.ownRun k v .active] [vn.ownRun k v .deleted] =
      [vn.ownRun k v stage]) (hyes : vn.permits .get .experiments = true) :
    World.answerWith draw (.tracking (vn.identity.clientIn vn.place) (.getRun (runIdOf v.run)))
      (vn.point k v).world = (.ok (vn.ownRun k v stage).report, (vn.point k v).world) := by
  have hr : (vn.server k v).perform vn.place (.getRun (runIdOf v.run)) =
      (.ok (vn.ownRun k v stage).report, vn.server k v) := by
    rw [Server.perform, run?_own h hv stage hk]
  exact answer_permitted draw h (.getRun (runIdOf v.run)) hyes hr

theorem exec_runDeleted (hk : k.run = .removed) (hyes : vn.permits .get .experiments = true) :
    (Check.runDeleted.test vn.fx (vn.state k v)).exec (World.answerWith draw) (vn.point k v).world =
      (.ok (.ok ()), (vn.point k v).world) := by
  have hid : (vn.state k v).runId = some (runIdOf v.run) := by
    change k.run.handle _ _ = _
    rw [hk]
    rfl
  exact exec_ofRun rfl hid (answer_getRun draw h hv .deleted (by rw [hk]; rfl) hyes) _ _

theorem exec_runFinished (hk : k.run = .made) (hfinished : k.finished = true)
    (hyes : vn.permits .get .experiments = true) :
    (Check.runFinished.test vn.fx (vn.state k v)).exec (World.answerWith draw)
        (vn.point k v).world =
      (.ok (.ok ()), (vn.point k v).world) := by
  have hid : (vn.state k v).runId = some (runIdOf v.run) := by
    change k.run.handle _ _ = _
    rw [hk]
    rfl
  refine (exec_ofRun rfl hid (answer_getRun draw h hv .active (by rw [hk]; rfl) hyes) _ _).trans ?_
  simp only [ownRun, StoredRun.report, hfinished]
  rfl

theorem exec_modelDeleted (hk : k.model = .removed)
    (hyes : vn.permits .get .registeredModels = true) :
    (Check.modelDeleted.test vn.fx (vn.state k v)).exec (World.answerWith draw)
        (vn.point k v).world =
      (.ok (.ok ()), (vn.point k v).world) := by
  have hid : (vn.state k v).modelName = some v.modelName := by
    change k.model.handle _ _ = _
    rw [hk]
    rfl
  have hr : (vn.server k v).perform vn.place (.getRegisteredModel v.modelName) =
      (.error (missing (.getRegisteredModel v.modelName) ("Registered Model " ++ v.modelName)),
        vn.server k v) := by
    rw [Server.perform, any_own_model h hv, hk]
    rfl
  simp only [Check.modelDeleted, hid]
  refine (exec_asking_error rfl
    (answer_failed draw h (.getRegisteredModel v.modelName) hyes hr) _).trans ?_
  simp only [Failure.ofMessage, code_missing_model hv.model, if_true]

omit h hv in
theorem exec_verdict_ok {r : Except String Unit} (hr : r = .ok ()) (w : World) :
    (Check.verdict r).exec (World.answerWith draw) w = (.ok (.ok ()), w) := by
  rw [hr, Check.verdict, Task.exec_pure]

/-- **A check that the sketch says passes** does. One case for each check. -/
theorem exec_test (hrecalls : vn.Recalls k v) {t : Test} (ht : k.passes vn.permits t = true) :
    (t.check.test vn.fx (vn.state k v)).exec (World.answerWith draw) (vn.point k v).world =
      (.ok (.ok ()), (vn.point k v).world) := by
  cases t <;> simp only [Sketch.passes, Sketch.running, Bool.and_eq_true, Bool.not_eq_true',
    beq_iff_eq, bne_iff_ne] at ht
  case actionDenied => exact exec_verdict_ok draw (hrecalls ht) _
  case experimentRetrieved => exact exec_verdict_ok draw (experiment_set h ht.2) _
  case experimentCreated => exact exec_verdict_ok draw (experiment_set h ht.2) _
  case experimentDeleted => exact exec_experimentDeleted draw h hv ht.1.2 ht.2
  case runCreated => exact exec_verdict_ok draw (run_set h ht.2) _
  case runDeleted => exact exec_runDeleted draw h hv ht.1.2 ht.2
  case runFinished => exact exec_runFinished draw h hv ht.1.1.2 ht.1.2 ht.2
  case artifactLogged =>
    refine exec_verdict_ok draw ?_ _
    simp [Check.loggedVerdict, state, ht.1.2, ht.2]
  case artifactDownloaded =>
    refine exec_verdict_ok draw ?_ _
    simp [Check.downloadedVerdict, state, ht.1.2, ht.2]
  case storageVerified =>
    have hproxied : Text.startsWith proxiedScheme
        (artifactRoot vn.seeded.experimentId (runIdOf v.run)) = true := by
      simp only [artifactRoot, String.append_assoc]
      exact Text.startsWith_append ..
    refine exec_verdict_ok draw ?_ _
    simp [Check.storageVerdict, state, ht.2, hproxied]
  case modelLogged =>
    have hscheme := Text.startsWith_append modelScheme (loggedIdOf v.logged)
    refine exec_verdict_ok draw ?_ _
    simp [Check.modelLoggedVerdict, state, ht.2, hscheme]
  case modelLoaded => exact exec_verdict_ok draw (h.loads _ (if_pos ht.2)) _
  case modelRetrieved => exact exec_verdict_ok draw (model_set h hv ht.2) _
  case modelCreated => exact exec_verdict_ok draw (model_set h hv ht.2) _
  case modelDeleted => exact exec_modelDeleted draw h hv ht.1.2 ht.2

end Venue

/-- **A check that passes** ends the step, unless the action failed and the check does not expect
that. -/
theorem exec_verify_passes {σ : Type} {h : Program.Handler probe σ} {fx : Fixture} {p : Point σ}
    {step : Step} {check : Check} (hc : step.check = some check) {outcome : ActionOutcome}
    (houtcome : check.expectsDenial = true ∨ outcome = .succeeded)
    (ht : (check.test fx p.state).exec h p.world = (.ok (.ok ()), p.world)) :
    exec h (step.verify fx outcome) p = (.ok (some check.name), p) := by
  have hmeets : outcome.isFailed = true → check.expectsDenial = true := by
    rcases houtcome with hexpects | rfl
    · exact fun _ => hexpects
    · exact nofun
  rw [exec_verify_tested hc hmeets ht]
  rfl

end GrantProbe
