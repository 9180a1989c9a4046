import GrantProbe.Proofs.Case.Enact
import GrantProbe.Proofs.Cleanup.Tidy
import GrantProbe.Proofs.Suite.Quiet

/-!
# What a case can cost the baseline

Where everything is permitted, a case that deletes what it has not created deletes what was seeded.
An experiment and a run are only marked as deleted, and serve as before; a registered model is gone.

* `Server.strip`: the server once a seeded resource has been deleted; `Venue.strip`, `Valid.strip`:
  the venue, which is one still;
* `exec_seededDeleted`: an action that deletes what was seeded;
* `exec_modelMissed`: an action that is about a model that is gone.
-/

namespace GrantProbe

open CaseTask (exec)

/-! ## The server -/

namespace Server

/-- **The server without something that was seeded** in a workspace. -/
def strip (s : Server) (scope : String) (b : Baseline) : Cleanable → Server
  | .run => s.changeRun scope b.runId fun r => { r with stage := .deleted }
  | .model => { s with models := s.models.filter (! ·.isAt scope b.modelName) }
  | .experiment => s.changeExperiment scope b.experimentId fun e => { e with stage := .deleted }

variable (s : Server) (scope : String) (b : Baseline) (kind : Cleanable)

theorem counter_strip : (s.strip scope b kind).counter = s.counter := by
  cases kind <;> rfl

theorem isSome_experiment?_strip (workspace id : String) :
    ((s.strip scope b kind).experiment? workspace id).isSome =
      (s.experiment? workspace id).isSome := by
  cases kind with
  | run => rfl
  | model => rfl
  | experiment =>
    have hat (e : StoredExperiment) :
        (if e.isAt scope b.experimentId then { e with stage := Stage.deleted } else e).isAt
          workspace id = e.isAt workspace id := by
      split_ifs <;> rfl
    simp only [strip, changeExperiment, experiment?, List.find?_map, Option.isSome_map,
      Function.comp_def, hat]

theorem isSome_run?_strip (workspace id : String) :
    ((s.strip scope b kind).run? workspace id).isSome = (s.run? workspace id).isSome := by
  cases kind with
  | model => rfl
  | experiment => rfl
  | run =>
    have hat (r : StoredRun) :
        (if r.isAt scope b.runId then { r with stage := Stage.deleted } else r).isAt workspace id =
          r.isAt workspace id := by
      split_ifs <;> rfl
    simp only [strip, changeRun, run?, List.find?_map, Option.isSome_map, Function.comp_def, hat]

theorem mem_models_of_strip {m : StoredModel} (hm : m ∈ (s.strip scope b kind).models) :
    m ∈ s.models := by
  cases kind with
  | run => exact hm
  | experiment => exact hm
  | model => exact List.mem_of_mem_filter hm

/-- In its own workspace the seeded model is the one that can be lost. -/
theorem any_model_strip : (s.strip scope b kind).models.any (·.isAt scope b.modelName) =
    (s.models.any (·.isAt scope b.modelName) && kind != .model) := by
  cases kind with
  | run => exact (Bool.and_true _).symm
  | experiment => exact (Bool.and_true _).symm
  | model =>
    rw [bne_self_eq_false, Bool.and_false, List.any_eq_false]
    intro m hm
    simpa using (List.mem_filter.mp hm).2

theorem any_model_strip_of_ne {workspace : String} (hne : workspace ≠ scope) (name : String) :
    (s.strip scope b kind).models.any (·.isAt workspace name) =
      s.models.any (·.isAt workspace name) := by
  cases kind with
  | run => rfl
  | experiment => rfl
  | model =>
    have hother (m : StoredModel) :
        (!m.isAt scope b.modelName && m.isAt workspace name) = m.isAt workspace name := by
      cases hat : m.isAt workspace name with
      | false => exact Bool.and_false _
      | true =>
        simp only [StoredModel.isAt, Bool.and_eq_true, beq_iff_eq] at hat
        have helse : (m.workspace == scope) = false := beq_eq_false_iff_ne.mpr (hat.1 ▸ hne)
        rw [StoredModel.isAt, helse]
        rfl
    simp only [strip, List.any_filter, hother]

variable {s scope b} in
/-- In its own workspace a baseline is served as before, or without its model. -/
theorem Serves.strip {stocked : Bool} (h : s.Serves stocked scope b) :
    (s.strip scope b kind).Serves (stocked && kind != .model) scope b where
  experiment := (isSome_experiment?_strip ..).trans h.experiment
  run := (isSome_run?_strip ..).trans h.run
  model := by rw [any_model_strip, h.model]

variable {s scope} in
theorem Serves.strip_of_ne {stocked : Bool} {workspace : String} {other : Baseline}
    (h : s.Serves stocked workspace other) (hne : workspace ≠ scope) :
    (s.strip scope b kind).Serves stocked workspace other where
  experiment := (isSome_experiment?_strip ..).trans h.experiment
  run := (isSome_run?_strip ..).trans h.run
  model := (any_model_strip_of_ne _ _ _ _ hne _).trans h.model

variable {s} in
theorem Numbered.strip (h : s.Numbered) : (s.strip scope b kind).Numbered := by
  cases kind with
  | model => exact ⟨h.experiments, h.runs, h.loggedModels⟩
  | experiment =>
    refine ⟨fun e he => ?_, h.runs, h.loggedModels⟩
    obtain ⟨old, hold, rfl⟩ := List.mem_map.mp he
    obtain ⟨n, hn, hid⟩ := h.experiments old hold
    refine ⟨n, hn, ?_⟩
    split_ifs <;> exact hid
  | run =>
    refine ⟨h.experiments, fun r hr => ?_, h.loggedModels⟩
    obtain ⟨old, hold, rfl⟩ := List.mem_map.mp hr
    obtain ⟨n, hn, hid⟩ := h.runs old hold
    refine ⟨n, hn, ?_⟩
    split_ifs <;> exact hid

end Server

/-! ## The venue -/

namespace Sketch

/-- How far a case has come with a kind of what it cleans up. -/
def trail (k : Sketch) : Cleanable → Trail
  | .run => k.run
  | .model => k.model
  | .experiment => k.experiment

/-- The case has the handle of what was seeded. -/
def sight (k : Sketch) : Cleanable → Sketch
  | .run => { k with run := .sighted }
  | .model => { k with model := .sighted }
  | .experiment => { k with experiment := .sighted }

end Sketch

namespace Venue

/-- **The venue without something that was seeded.** -/
def strip (vn : Venue) (kind : Cleanable) : Venue :=
  { vn with
    world := { vn.world with server := vn.world.server.strip vn.place vn.seeded kind }
    stocked := vn.stocked && kind != .model }

variable {vn : Venue} {k : Sketch} {v : Values}

theorem Valid.strip (h : vn.Valid) (kind : Cleanable) : (vn.strip kind).Valid where
  baseline := h.baseline
  serves := h.serves.strip kind
  runId := h.runId
  experimentId := h.experimentId
  modelName := h.modelName
  numbered := h.numbered.strip vn.place vn.seeded kind
  models := fun m hm => h.models m (Server.mem_models_of_strip _ _ _ _ hm)
  permitted := h.permitted
  place := h.place
  reference := h.reference
  loads := h.loads

/-- **The venue without several things.** -/
def without (vn : Venue) (kinds : List Cleanable) : Venue := kinds.foldl strip vn

theorem exists_without_eq (vn : Venue) (kinds : List Cleanable) : ∃ server stocked,
    vn.without kinds =
      { vn with world := { vn.world with server := server }, stocked := stocked } := by
  induction kinds generalizing vn with
  | nil => exact ⟨vn.world.server, vn.stocked, rfl⟩
  | cons kind rest ih =>
    obtain ⟨server, stocked, hsame⟩ := ih (vn.strip kind)
    exact ⟨server, stocked, hsame⟩

theorem permits_without (vn : Venue) (kinds : List Cleanable) :
    (vn.without kinds).permits = vn.permits := by
  obtain ⟨server, stocked, hsame⟩ := vn.exists_without_eq kinds
  rw [hsame]

theorem place_without (vn : Venue) (kinds : List Cleanable) :
    (vn.without kinds).place = vn.place := by
  obtain ⟨server, stocked, hsame⟩ := vn.exists_without_eq kinds
  rw [hsame]

theorem seeded_without (vn : Venue) (kinds : List Cleanable) :
    (vn.without kinds).seeded = vn.seeded := by
  obtain ⟨server, stocked, hsame⟩ := vn.exists_without_eq kinds
  rw [hsame]

theorem fx_without (vn : Venue) (kinds : List Cleanable) : (vn.without kinds).fx = vn.fx := by
  obtain ⟨server, stocked, hsame⟩ := vn.exists_without_eq kinds
  rw [hsame]

theorem serves_without_of_ne {vn : Venue} {stocked : Bool} {workspace : String} {other : Baseline}
    (h : vn.world.server.Serves stocked workspace other) (hne : workspace ≠ vn.place)
    (kinds : List Cleanable) : (vn.without kinds).world.server.Serves stocked workspace other := by
  induction kinds generalizing vn with
  | nil => exact h
  | cons kind rest ih =>
    change ((vn.strip kind).without rest).world.server.Serves stocked workspace other
    exact ih (h.strip_of_ne vn.seeded kind hne) hne

theorem without_append (vn : Venue) (kinds more : List Cleanable) :
    (vn.without kinds).without more = vn.without (kinds ++ more) :=
  List.foldl_append.symm

theorem Valid.without (h : vn.Valid) (kinds : List Cleanable) : (vn.without kinds).Valid := by
  induction kinds generalizing vn with
  | nil => exact h
  | cons kind rest ih => exact ih (h.strip kind)

theorem mem_models_of_without {vn : Venue} {kinds : List Cleanable} {m : StoredModel}
    (hm : m ∈ (vn.without kinds).world.server.models) : m ∈ vn.world.server.models := by
  induction kinds generalizing vn with
  | nil => exact hm
  | cons kind rest ih => exact Server.mem_models_of_strip _ _ _ _ (ih hm)

theorem stocked_without (vn : Venue) (kinds : List Cleanable) :
    (vn.without kinds).stocked = (vn.stocked && !kinds.contains .model) := by
  induction kinds generalizing vn with
  | nil => exact (Bool.and_true _).symm
  | cons kind rest ih =>
    refine (ih (vn.strip kind)).trans ?_
    rw [List.contains_cons, Bool.not_or, ← Bool.and_assoc, BEq.comm]
    rfl

/-- The values that fit fit afterwards: what has a handle is not yet the case's own. -/
theorem Fits.sight (hv : vn.Fits k v) {kind : Cleanable} (hown : (k.trail kind).isOwn = false) :
    (vn.strip kind).Fits (k.sight kind) v := by
  have hsight : vn.Fits (k.sight kind) v := by
    cases kind with
    | run => exact hv.of_isOwn_eq rfl hown.symm rfl
    | model => exact hv.of_isOwn_eq rfl rfl rfl
    | experiment => exact hv.of_isOwn_eq hown.symm rfl rfl
  have hcounter : (vn.strip kind).world.server.counter = vn.world.server.counter :=
    Server.counter_strip ..
  refine ⟨?_, ?_, ?_, ?_, hsight.experiment_le, hsight.run_le, hsight.logged_le, hsight.model⟩ <;>
    rw [hcounter]
  · exact hsight.counter
  · exact hsight.experiment
  · exact hsight.run
  · exact hsight.logged

end Venue

/-! ## The actions -/

/-- What a case targets when it deletes. -/
def Cleanable.target (fx : Fixture) (s : CaseState) : Cleanable → Except Error String
  | .run => Action.targetRun fx s
  | .model => Action.targetModel fx s
  | .experiment => Action.targetExperiment fx s

/-- The state with the handle of what was seeded. -/
def CaseState.sight (s : CaseState) (id : String) : Cleanable → CaseState
  | .run => { s with runId := some id }
  | .model => { s with modelName := some id }
  | .experiment => { s with experimentId := some id }

/-- What a move deletes. -/
def Move.deletes? : Move → Option Cleanable
  | .deleteRun => some .run
  | .deleteRegisteredModel => some .model
  | .deleteExperiment => some .experiment
  | _ => none

theorem Move.run_of_deletes {m : Move} {kind : Cleanable} (hm : m.deletes? = some kind)
    (fx : Fixture) :
    m.action.run fx = (get >>= fun s => CaseTask.check (kind.target fx s) >>= fun id =>
      kind.remove id >>= fun _ => modify fun s => (s.forget kind id).sight id kind) := by
  cases m <;> cases hm <;> rfl

namespace Venue

section
variable {vn : Venue} {k : Sketch} {v : Values} {kind : Cleanable}

theorem forget_unowned (hown : (k.trail kind).isOwn = false) (id : String) :
    (vn.state k v).forget kind id = vn.state k v := by
  obtain ⟨x, r, m, _, _, _, _, _, _, _, _, _⟩ := k
  cases kind <;> rcases Trail.eq_of_not_isOwn hown with rfl | rfl <;> rfl

theorem state_sight (hown : (k.trail kind).isOwn = false) :
    (vn.strip kind).state (k.sight kind) v =
      (vn.state k v).sight (vn.seeded.idOf kind) kind := by
  obtain ⟨x, r, m, _, _, _, _, _, _, _, _, _⟩ := k
  cases kind <;> rcases Trail.eq_of_not_isOwn hown with rfl | rfl <;> rfl

theorem strip_server (hown : (k.trail kind).isOwn = false) :
    (vn.server k v).strip vn.place vn.seeded kind = (vn.strip kind).server (k.sight kind) v := by
  cases kind with
  | run =>
    have hnone : k.run.own [vn.ownRun k v .active] [vn.ownRun k v .deleted] = [] :=
      Trail.own_of_not_isOwn hown _ _
    simp only [Server.strip, Server.changeRun, server, hnone, List.append_nil]
    exact congrArg (fun l => { (vn.strip .run).server (k.sight .run) v with runs := l })
      (List.append_nil _).symm
  | model =>
    have hnone : k.model.own [StoredModel.mk vn.place v.modelName] [] = [] :=
      Trail.own_of_not_isOwn hown _ _
    simp only [Server.strip, server, hnone, List.append_nil]
    exact congrArg (fun l => { (vn.strip .model).server (k.sight .model) v with models := l })
      (List.append_nil _).symm
  | experiment =>
    have hnone : k.experiment.own [vn.ownExperiment v .active] [vn.ownExperiment v .deleted] = [] :=
      Trail.own_of_not_isOwn hown _ _
    simp only [Server.strip, Server.changeExperiment, server, hnone, List.append_nil]
    exact congrArg (fun l =>
      { (vn.strip .experiment).server (k.sight .experiment) v with experiments := l })
      (List.append_nil _).symm

theorem point_strip (hown : (k.trail kind).isOwn = false) :
    (vn.strip kind).point (k.sight kind) v =
      ⟨(vn.state k v).sight (vn.seeded.idOf kind) kind, { vn.world with
        server := (vn.server k v).strip vn.place vn.seeded kind, draws := v.draws }⟩ := by
  rw [strip_server hown, ← state_sight hown]
  rfl

variable (draw : Nat → String) (h : vn.Valid)
include h

theorem isSome_run?_seeded (k : Sketch) (v : Values) :
    ((vn.server k v).run? vn.place vn.seeded.runId).isSome = true := by
  obtain ⟨r, hr⟩ := Option.isSome_iff_exists.mp h.serves.run
  unfold Server.run? at hr ⊢
  rw [server, List.find?_append, hr, Option.some_or, Option.isSome_some]

theorem target_seeded (hown : (k.trail kind).isOwn = false) :
    kind.target vn.fx (vn.state k v) = .ok (vn.seeded.idOf kind) := by
  have hhandle {t : Trail} (ht : t.isOwn = false) (seeded own : String) :
      (t.handle seeded own).getD seeded = seeded := by
    rcases Trail.eq_of_not_isOwn ht with rfl | rfl <;> rfl
  cases kind with
  | run => exact h.targetRun.trans (congrArg Except.ok (hhandle hown _ _))
  | model => exact h.targetModel.trans (congrArg Except.ok (hhandle hown _ _))
  | experiment => exact h.targetExperiment.trans (congrArg Except.ok (hhandle hown _ _))

variable (hopen : ∀ verb what, vn.permits verb what = true)
include hopen

theorem exec_remove_seeded (hstocked : kind = .model → vn.stocked = true) :
    exec (World.answerWith draw) (kind.remove (vn.seeded.idOf kind)) (vn.point k v) =
      (.ok (), (vn.point k v).withServer ((vn.server k v).strip vn.place vn.seeded kind)) := by
  have hyes (verb : Verb) (what : ResourceKind) :
      (vn.point k v).world.permitsNeed (vn.identity.clientIn vn.place) (verb, what) = true :=
    (h.permitsNeed_point k v verb what).trans (hopen verb what)
  cases kind with
  | run =>
    have hr : (vn.server k v).perform vn.place (.deleteRun vn.seeded.runId) =
        (.ok (), (vn.server k v).strip vn.place vn.seeded .run) := by
      rw [Server.perform, isSome_run?_seeded h, if_pos rfl]
      rfl
    exact exec_callAsActive_permitted rfl (.deleteRun vn.seeded.runId) rfl (hyes _ _) hr
  | model =>
    have hr : (vn.server k v).perform vn.place (.deleteRegisteredModel vn.seeded.modelName) =
        (.ok (), (vn.server k v).strip vn.place vn.seeded .model) := by
      rw [Server.perform, any_seeded_model h (hstocked rfl), if_pos rfl]
      rfl
    exact exec_callAsActive_permitted rfl (.deleteRegisteredModel vn.seeded.modelName) rfl
      (hyes _ _) hr
  | experiment =>
    obtain ⟨e, he, -⟩ := experiment?_seeded h k v
    have hr : (vn.server k v).perform vn.place (.deleteExperiment vn.seeded.experimentId) =
        (.ok (), (vn.server k v).strip vn.place vn.seeded .experiment) := by
      rw [Server.perform, he, Option.isSome_some, if_pos rfl]
      rfl
    exact exec_callAsActive_permitted rfl (.deleteExperiment vn.seeded.experimentId) rfl
      (hyes _ _) hr

/-- **A case that deletes what it has not created** deletes what was seeded. -/
theorem exec_seededDeleted {m : Move} (hm : m.deletes? = some kind)
    (hown : (k.trail kind).isOwn = false) (hstocked : kind = .model → vn.stocked = true) :
    exec (World.answerWith draw) (m.action.run vn.fx) (vn.point k v) =
      (.ok (), (vn.strip kind).point (k.sight kind) v) := by
  rw [m.run_of_deletes hm, point_strip hown]
  refine (exec_check_get (kind.target vn.fx) (target_seeded h hown) _).trans ?_
  refine (CaseTask.exec_bind_ok (exec_remove_seeded draw h hopen hstocked) _).trans ?_
  rw [CaseTask.exec_modify]
  change (_, Point.mk
    (((vn.state k v).forget kind (vn.seeded.idOf kind)).sight (vn.seeded.idOf kind) kind) _) = _
  rw [forget_unowned hown]
  rfl

theorem exec_call_missed {call : TrackingCall} {name : String}
    (hr : (vn.server k v).perform vn.place call =
      (.error (missing call ("Registered Model " ++ name)), vn.server k v))
    (f : call.Answer → CaseTask Unit) :
    exec (World.answerWith draw) (Action.callAsActive call >>= f) (vn.point k v) =
      (.error (.error (missing call ("Registered Model " ++ name))), vn.point k v) :=
  exec_call_error rfl (answerWith_failed (w := (vn.point k v).world) rfl
    ((h.permitsNeed_point k v call.needs.1 call.needs.2).trans (hopen _ _)) hr) f

/-- **A case that is about the seeded model** misses it once it is gone. -/
theorem exec_modelMissed (hname : IsSeededModel vn.seeded.modelName) {m : Move}
    (hm : m = .getRegisteredModel ∨ m = .deleteRegisteredModel) (hown : k.model.isOwn = false)
    (hgone : vn.stocked = false) :
    ∃ e : Error, FailureCode.ofMessage e.message = .resourceNotFound ∧
      exec (World.answerWith draw) (m.action.run vn.fx) (vn.point k v) =
        (.error (.error e), vn.point k v) := by
  let name := vn.seeded.modelName
  have hnone : (vn.server k v).models.any (·.isAt vn.place name) = false := by
    rw [server, Trail.own_of_not_isOwn hown, List.append_nil, h.serves.model, hgone]
  have hcode := code_missing_seeded hname
  rcases hm with rfl | rfl
  · refine ⟨_, hcode (.getRegisteredModel name) List.mem_cons_self, ?_⟩
    refine (exec_check_get (Action.baselineModel vn.fx) h.baselineModel _).trans ?_
    exact exec_call_missed draw h hopen (by rw [Server.perform, hnone]; rfl) _
  · refine ⟨_, hcode (.deleteRegisteredModel name) (List.mem_cons_of_mem _ List.mem_cons_self), ?_⟩
    have htarget : Cleanable.target vn.fx (vn.state k v) .model = .ok name := target_seeded h hown
    refine (exec_check_get (Cleanable.target vn.fx · .model) htarget _).trans ?_
    exact exec_call_missed draw h hopen (by rw [Server.perform, hnone]; rfl) _

end

end Venue

end GrantProbe
