import GrantProbe.Proofs.Permissive.Open

/-!
# Cases that find no place

The secondary workspace need not have a name, and need not be there. In a workspace with a blank
name nothing can be registered for cleanup, so what a case creates there is left behind; where there
is only one workspace the case does not come to act at all. Either way a check for a denial fails,
and the world stays open.

* `Server.Grows`: what is added to a server under blank names; `grows_perform`: the calls that add;
* `OnlyAdds`: tasks that add to a workspace, with a lemma for each way to build one;
  `onlyAdds_move`: the moves of the cases in the secondary workspace;
* `exec_runOne_stopped`: a case whose first step fails and has only added;
  `exec_runOne_nameless`, `exec_runOne_nowhere`: the two kinds of it.
-/

namespace GrantProbe

open CaseTask (exec)

/-! ## The server -/

namespace Server

/-- **The server has grown under blank names:** its ids are counted, every new model is in a blank
workspace, and every baseline is served as before. -/
structure Grows (s s' : Server) : Prop where
  numbered : s.Numbered → s'.Numbered
  models : ∀ m ∈ s'.models, m ∈ s.models ∨ Text.isAllBlank m.workspace = true
  serves : ∀ {stocked place b}, b.Named → s.Serves stocked place b → s'.Serves stocked place b

theorem Grows.refl (s : Server) : s.Grows s := ⟨id, fun _ => Or.inl, fun _ => id⟩

theorem Grows.trans {s s' s'' : Server} (h : s.Grows s') (h' : s'.Grows s'') : s.Grows s'' where
  numbered hs := h'.numbered (h.numbered hs)
  models m hm := (h'.models m hm).elim (h.models m) Or.inr
  serves hb hs := h'.serves hb (h.serves hb hs)

end Server

/-- **The call adds,** if it does anything: it fetches something, or creates it under a name that is
not that of a seeded model. -/
def TrackingCall.Adds : TrackingCall → Prop
  | .getExperiment _ | .createExperiment _ | .createRun _ | .getRegisteredModel _ => True
  | .createRegisteredModel name => IsTestModel name
  | _ => False

namespace Server

variable {s : Server} {scope : String}

theorem grows_createExperiment (name : String) :
    s.Grows (s.perform scope (.createExperiment name)).2 where
  numbered h := h.add_experiment scope name .active
  models _ := Or.inl
  serves _ h := by
    obtain ⟨e, he⟩ := Option.isSome_iff_exists.mp h.experiment
    unfold experiment? at he
    refine ⟨?_, h.run, h.model⟩
    rw [experiment?, perform, List.find?_append, he]
    rfl

theorem grows_createRun (experimentId : String) :
    s.Grows (s.perform scope (.createRun experimentId)).2 := by
  rw [perform]
  split_ifs
  · refine ⟨fun h => h.add_run scope experimentId "RUNNING" .active [], fun _ => Or.inl,
      fun _ h => ?_⟩
    obtain ⟨r, hr⟩ := Option.isSome_iff_exists.mp h.run
    unfold run? at hr
    refine ⟨h.experiment, ?_, h.model⟩
    rw [run?, List.find?_append, hr]
    rfl
  · exact .refl s

/-- A model that replaces one of its name does so under a name that no seeded model has. -/
theorem grows_createRegisteredModel (hscope : Text.isAllBlank scope = true) {name : String}
    (hname : IsTestModel name) : s.Grows (s.perform scope (.createRegisteredModel name)).2 where
  numbered h := ⟨h.experiments, h.runs, h.loggedModels⟩
  models m hm := by
    rcases List.mem_append.mp hm with hold | hnew
    · exact Or.inl (List.mem_of_mem_filter hold)
    · rw [List.mem_singleton.mp hnew]
      exact Or.inr hscope
  serves {stocked place b} hb h := by
    obtain ⟨x, hx⟩ := hb.modelName
    have hne : b.modelName ≠ name := hx ▸ (hname.ne_baseline x).symm
    refine ⟨h.experiment, h.run, ?_⟩
    rw [← h.model, perform, List.any_append, List.any_filter, Bool.eq_iff_iff]
    simp only [List.any_cons, List.any_nil, StoredModel.isAt, Bool.or_false, Bool.or_eq_true,
      List.any_eq_true, Bool.and_eq_true, Bool.not_eq_true', beq_iff_eq, Bool.and_eq_false_iff,
      beq_eq_false_iff_ne]
    constructor
    · rintro (⟨m, hm, -, hat⟩ | ⟨-, rfl⟩)
      · exact ⟨m, hm, hat⟩
      · exact absurd rfl hne
    · rintro ⟨m, hm, hplace, hat⟩
      exact Or.inl ⟨m, hm, Or.inr (hat ▸ hne), hplace, hat⟩

/-- **A call that adds** in a workspace with a blank name. One case for each such call. -/
theorem grows_perform (hscope : Text.isAllBlank scope = true) {call : TrackingCall}
    (hadds : call.Adds) : s.Grows (s.perform scope call).2 := by
  cases call with
  | createExperiment name => exact grows_createExperiment name
  | createRun experimentId => exact grows_createRun experimentId
  | createRegisteredModel name => exact grows_createRegisteredModel hscope hadds
  | getExperiment id =>
    rw [perform]
    split <;> exact .refl s
  | getRegisteredModel name =>
    rw [perform]
    split_ifs <;> exact .refl s
  | _ => exact hadds.elim

end Server

/-! ## Tasks that add to a workspace -/

/-- What a case has to clean up: what it has registered, and its identities. -/
def CaseState.owed (s : CaseState) : (Cleanable → SortedMap String) × List Identity :=
  (s.registry, s.identities)

/-- **A run has only added:** it is where it was and owes what it owed, and the server has grown. -/
structure Point.OnlyAdds (p q : Point World) : Prop where
  scope : q.state.scope = p.state.scope
  client : q.state.client = p.state.client
  owed : q.state.owed = p.state.owed
  world : ∃ server draws, q.world = { p.world with server := server, draws := draws } ∧
    p.world.server.Grows server

theorem Point.OnlyAdds.refl (p : Point World) : p.OnlyAdds p :=
  ⟨rfl, rfl, rfl, p.world.server, p.world.draws, rfl, .refl _⟩

theorem Point.OnlyAdds.trans {p q r : Point World} (h : p.OnlyAdds q) (h' : q.OnlyAdds r) :
    p.OnlyAdds r := by
  obtain ⟨server, draws, hq, hgrows⟩ := h.world
  obtain ⟨server', draws', hr, hgrows'⟩ := h'.world
  rw [hq] at hr hgrows'
  exact ⟨h'.scope.trans h.scope, h'.client.trans h.client, h'.owed.trans h.owed, server', draws',
    hr, hgrows.trans hgrows'⟩

/-- The case is in a workspace with a blank name, and its client is bound there. -/
def Point.IsNameless (p : Point World) : Prop :=
  Text.isAllBlank p.state.scope = true ∧ ∀ c, p.state.client = some c → c.workspace = p.state.scope

theorem Point.IsNameless.of_onlyAdds {p q : Point World} (hp : p.IsNameless) (h : p.OnlyAdds q) :
    q.IsNameless := by
  unfold IsNameless at hp ⊢
  rwa [h.scope, h.client]

namespace CaseTask

/-- **A task only adds** where nothing can be registered. -/
def OnlyAdds {α : Type} (draw : Nat → String) (t : CaseTask α) : Prop :=
  ∀ p : Point World, p.IsNameless → p.OnlyAdds (exec (World.answerWith draw) t p).2

variable {α β : Type} {draw : Nat → String}

theorem onlyAdds_get : OnlyAdds draw get := fun p _ => .refl p

theorem onlyAdds_check (r : Except Error α) : OnlyAdds draw (check r) := by
  intro p _
  cases r <;> exact .refl p

theorem onlyAdds_modify {f : CaseState → CaseState}
    (hf : ∀ s, (f s).scope = s.scope ∧ (f s).client = s.client ∧ (f s).owed = s.owed) :
    OnlyAdds draw (modify f) := fun p _ =>
  ⟨(hf p.state).1, (hf p.state).2.1, (hf p.state).2.2, p.world.server, p.world.draws, rfl, .refl _⟩

theorem OnlyAdds.bind {t : CaseTask α} {k : α → CaseTask β} (ht : OnlyAdds draw t)
    (hk : ∀ a, OnlyAdds draw (k a)) : OnlyAdds draw (t >>= k) := by
  intro p hp
  have hfirst := ht p hp
  rw [exec_bind]
  rcases hr : exec (World.answerWith draw) t p with ⟨e | a, q⟩ <;> rw [hr] at hfirst
  · exact hfirst
  · exact hfirst.trans (hk a q (hp.of_onlyAdds hfirst))

theorem onlyAdds_draw {k : String → CaseTask Unit} (hk : ∀ n, OnlyAdds draw (k (draw n))) :
    OnlyAdds draw (lift Probe.suffix >>= k) := by
  intro p hp
  have hdrawn : p.OnlyAdds p.afterDraw := ⟨rfl, rfl, rfl, _, _, rfl, .refl _⟩
  rw [exec_draw_world]
  exact hdrawn.trans (hk _ _ (hp.of_onlyAdds hdrawn))

theorem onlyAdds_callAsActive (call : TrackingCall) (hadds : call.Adds) :
    OnlyAdds draw (Action.callAsActive call) := by
  intro p hp
  cases hc : p.state.client with
  | none =>
    have hnobody : p.state.activeClient = .error noIdentityError := by
      rw [CaseState.activeClient, hc]
    unfold Action.callAsActive
    rw [exec_bind_ok (exec_get _ p), hnobody, exec_bind_error (exec_check_error _ p _)]
    exact .refl p
  | some client =>
    have hworkspace := hp.2 client hc
    rw [exec_callAsActive hc, World.answerWith_tracking, World.tracking]
    split_ifs
    · rw [hworkspace]
      exact ⟨rfl, rfl, rfl, _, _, rfl, Server.grows_perform hp.1 hadds⟩
    · exact .refl p

/-- **Nothing can be registered** in a workspace with a blank name. -/
theorem onlyAdds_registerHere (kind : Cleanable) (id : String) :
    OnlyAdds draw (Action.registerHere kind id) := by
  intro p hp
  have hrefused : ∃ e, p.state.register kind id p.state.scope = .error e := by
    unfold CaseState.register
    rw [hp.1, if_pos rfl]
    split_ifs <;> exact ⟨_, rfl⟩
  obtain ⟨e, he⟩ := hrefused
  unfold Action.registerHere
  rw [exec_bind_ok (exec_get _ p), he, exec_bind_error (exec_check_error _ p e)]
  exact .refl p

theorem OnlyAdds.attempt {t : CaseTask α} (ht : OnlyAdds draw t) : OnlyAdds draw t.attempt := by
  intro p hp
  have hadds := ht p hp
  rw [exec_attempt]
  rcases hr : exec (World.answerWith draw) t p with ⟨(e | x) | a, q⟩ <;> rw [hr] at hadds <;>
    exact hadds

/-- **The moves of the cases in the secondary workspace** only add to it. -/
theorem onlyAdds_move (hdraw : ∀ n, isSuffix (draw n) = true) (fx : Fixture) {m : Move}
    (hm : m ∈ secondaryMoves) : OnlyAdds draw (m.action.run fx) := by
  simp only [secondaryMoves, List.mem_cons, List.not_mem_nil, or_false] at hm
  rcases hm with rfl | rfl | rfl | rfl | rfl
  · exact onlyAdds_get.bind fun _ => (onlyAdds_check _).bind fun id =>
      (onlyAdds_callAsActive (.getExperiment id) trivial).bind fun _ =>
        onlyAdds_modify fun _ => ⟨rfl, rfl, rfl⟩
  · exact onlyAdds_draw fun n =>
      (onlyAdds_callAsActive (.createExperiment ("test-experiment-" ++ draw n)) trivial).bind
        fun id => (onlyAdds_registerHere .experiment id).bind fun _ =>
          onlyAdds_modify fun _ => ⟨rfl, rfl, rfl⟩
  · exact onlyAdds_get.bind fun _ => (onlyAdds_check _).bind fun experimentId =>
      (onlyAdds_callAsActive (.createRun experimentId) trivial).bind
        fun id => (onlyAdds_registerHere .run id).bind fun _ =>
          onlyAdds_modify fun _ => ⟨rfl, rfl, rfl⟩
  · exact onlyAdds_get.bind fun _ => (onlyAdds_check _).bind fun name =>
      (onlyAdds_callAsActive (.getRegisteredModel name) trivial).bind fun _ =>
        onlyAdds_modify fun _ => ⟨rfl, rfl, rfl⟩
  · exact onlyAdds_draw fun n =>
      (onlyAdds_callAsActive (.createRegisteredModel ("test-model-" ++ draw n))
        ⟨draw n, hdraw n, rfl⟩).bind
        fun name => (onlyAdds_registerHere .model name).bind fun _ =>
          onlyAdds_modify fun _ => ⟨rfl, rfl, rfl⟩

end CaseTask

/-! ## Cases that are failed -/

/-- What has been added under blank names leaves a world open. -/
theorem World.Open.of_grows {fx : Fixture} {home : String} {stocked : Bool} {w w' : World}
    (hw : w.Open fx home stocked) (henforce : w'.enforce = w.enforce)
    (hcluster : w'.cluster = w.cluster) (hgrows : w.server.Grows w'.server) :
    w'.Open fx home stocked where
  enforce := henforce.trans hw.enforce
  cluster := hcluster.trans hw.cluster
  numbered := hgrows.numbered hw.numbered
  models m hm hnamed := hw.models m ((hgrows.models m hm).resolve_right (by simp [hnamed])) hnamed
  named := hw.named
  serves scope b hb :=
    hgrows.serves (hw.named _ (SortedMap.mem_of_lookup hb)).1 (hw.serves scope b hb)

/-- Where the case of a story stands once its identity has been established and it has gone
somewhere. -/
def Story.start (s : Story) (draw : Nat → String) (fx : Fixture) (w : World) (home place : String)
    (now : Nat) : Point World :=
  ⟨CaseState.become (.fresh fx.setting.scopes) (fx.setting.nextIdentity draw w home) place,
    (w.established (fx.setting.nextName draw w) home s.capability).atTime now⟩

section
variable {draw : Nat → String} {fx : Fixture} {w : World} {home away place : String} {s : Story}
  {b : Baseline} {stocked : Bool}

/-- **A case whose first step fails, and has only added since it became someone,** is torn down: its
identity is retired, and nothing else was to be cleaned up. -/
theorem exec_runOne_stopped (hw : w.Open fx home stocked) (hmem : s ∈ stories)
    (href : s.ref = .secondary) {first : Beat} {rest : List Beat} (hbeats : s.beats = first :: rest)
    {now : Nat} {e : Stop} {q : Point World}
    (hstep : exec (World.answerWith draw)
      (runStep fx (Catalogue.asGranted s.capability s.ref first.step))
      ⟨.fresh fx.setting.scopes, w⟩ = (.error e, q))
    (hadds : (s.start draw fx w home place now).OnlyAdds q) :
    s.RunsOpen draw fx w home stocked := by
  obtain ⟨server, draws, hworld, hgrows⟩ := hadds.world
  have hrun : exec (World.answerWith draw) (runCase fx s.case) ⟨.fresh fx.setting.scopes, w⟩ =
      (.error e, q) := by
    rw [Story.case_cons hbeats]
    refine exec_runCase_of (r := .error e) ?_
    exact CaseTask.exec_bind_error hstep _
  have howed (kind : Cleanable) : q.state.registry kind = .empty :=
    (congrFun (congrArg Prod.fst hadds.owed) kind).trans (by cases kind <;> rfl)
  have hnone (kind : Cleanable) (v : World) :
      (removeResources fx.setting kind (q.state.registry kind).entries).exec (World.answerWith draw) v
        = (.ok ⟨0, []⟩, v) := by
    rw [howed]
    rfl
  obtain ⟨report, st, -, hteardown⟩ := exec_teardown_of (congrArg Prod.snd hadds.owed)
    (hnone .run _) (hnone .model _) (hnone .experiment _)
  obtain ⟨duration, hone⟩ := exec_runOne_of (exec_runAndTearDown_of hrun hteardown)
  rw [Story.RunsOpen, ending_secondary hmem href]
  refine ⟨_, _, rfl, isNone_failureMessage _, hw.of_grows ?_ ?_ ?_, hone⟩
  · rw [hworld]
    rfl
  · rw [hworld]
    exact (lacks_of_empty hw.cluster _ _).without_withGrant _
  · rw [hworld]
    exact hgrows

theorem probed_of_secondary : ∀ m ∈ secondaryMoves, m ∈ probedMoves ∧ m.needs?.isSome = true := by
  decide

/-- **Where the second workspace has a blank name** the action of the case is carried out, and what
it creates cannot be registered. Neither is a denial. -/
theorem exec_runOne_nameless (hdraw : ∀ n, isSuffix (draw n) = true) (hs : fx.setting.Hosts home)
    {more : List String} (hscopes : fx.setting.scopes = home :: away :: more)
    (hblank : Text.isAllBlank away = true) (hw : w.Open fx home stocked)
    (hb : fx.baseline.get? away = some b) (hmem : s ∈ stories) (href : s.ref = .secondary) :
    s.RunsOpen draw fx w home stocked := by
  obtain ⟨m, hm, rest, hbeats⟩ := secondary_beats hmem href
  obtain ⟨hprobed, hasks⟩ := probed_of_secondary m hm
  obtain ⟨need, hneed⟩ := Option.isSome_iff_exists.mp hasks
  have hplace : resolveScope fx.setting.scopes s.ref = .ok away := by
    rw [hscopes, href]
    rfl
  have hother : (away != home) = true := by
    rw [bne_iff_ne]
    rintro rfl
    exact absurd hblank (by simp [hs.blank])
  have hserves := hw.serves away b hb
  rw [hother, Bool.or_true] at hserves
  have hnamed := (hw.named _ (SortedMap.mem_of_lookup hb)).1
  obtain ⟨now, hprep | ⟨hno, -⟩⟩ := exec_prepare_granted draw hs.resolve_primary hplace
    (lag_of_empty hw.cluster) hs.group (lacks_of_empty hw.cluster _ _) s.capability
    (Beat.step ⟨m, some .actionDenied⟩) (.fresh fx.setting.scopes)
  swap
  · exact absurd hs.settles hno
  let start := s.start draw fx w home away now
  have hyes (client : Client) : start.world.permitsNeed client need = true := by
    have hfree : start.world.enforce = false := hw.enforce
    rw [World.permitsNeed, hfree, Bool.not_false, Bool.or_true, Bool.true_or]
  have hends : EndsHarmlessly draw start (m.action.run fx) :=
    ends_probed hprobed hneed rfl (hyes _) hb
      ⟨hserves.experiment, hserves.run, hserves.model, hnamed.runId⟩ rfl rfl rfl rfl
  obtain ⟨result, q, hrun, hno⟩ := hends.exec_attempt
  have hadds : start.OnlyAdds q := by
    have hmove := (CaseTask.onlyAdds_move hdraw fx hm).attempt start
      ⟨hblank, fun c hc => by rw [← Option.some.inj hc]; rfl⟩
    rwa [hrun] at hmove
  let step := Catalogue.asGranted s.capability s.ref (Beat.step ⟨m, some .actionDenied⟩)
  obtain ⟨message, st, hst, hstep⟩ := exec_runStep_not_denied (rfl : step.action = some m.action)
    (rfl : step.check = some Check.actionDenied) hprep hrun hno
  have hrecorded : q.OnlyAdds ⟨st, q.world⟩ := by
    rcases hst with rfl | ⟨e, rfl⟩ <;> exact ⟨rfl, rfl, rfl, _, _, rfl, .refl _⟩
  exact exec_runOne_stopped hw hmem href hbeats hstep (hadds.trans hrecorded)

/-- **Where there is no second workspace** the case stops short of its action. -/
theorem exec_runOne_nowhere (hs : fx.setting.Hosts home) (hscopes : fx.setting.scopes = [home])
    (hw : w.Open fx home stocked) (hmem : s ∈ stories) (href : s.ref = .secondary) :
    s.RunsOpen draw fx w home stocked := by
  obtain ⟨m, -, rest, hbeats⟩ := secondary_beats hmem href
  obtain ⟨now, hbecome | ⟨hno, -⟩⟩ := exec_become draw hs.resolve_primary
    (lag_of_empty hw.cluster) hs.group (lacks_of_empty hw.cluster _ _) s.capability
    (.fresh fx.setting.scopes)
  swap
  · exact absurd hs.settles hno
  obtain ⟨e, hlacks⟩ : ∃ e, resolveScope fx.setting.scopes s.ref = .error e := by
    rw [hscopes, href]
    exact ⟨_, rfl⟩
  let step := Catalogue.asGranted s.capability s.ref (Beat.step ⟨m, some .actionDenied⟩)
  have hprep : exec (World.answerWith draw) (step.prepare fx) ⟨.fresh fx.setting.scopes, w⟩ =
      (.error (.error e), s.start draw fx w home home now) := by
    rw [prepare_eq]
    refine (CaseTask.exec_bind_ok hbecome _).trans ?_
    change exec _ (useScope fx s.ref) _ = _
    unfold useScope
    rw [hlacks]
    exact CaseTask.exec_bind_error (CaseTask.exec_check_error _ _ e) _
  have hstep := exec_runStep fx (World.answerWith draw) step ⟨.fresh fx.setting.scopes, w⟩
  rw [hprep] at hstep
  exact exec_runOne_stopped hw hmem href hbeats hstep (.refl _)

end

end GrantProbe
