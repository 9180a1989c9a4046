import Mathlib.Data.List.Forall2
import GrantProbe.Proofs.Case.Rehearse
import GrantProbe.Proofs.Case.Teardown
import GrantProbe.Proofs.Suite.Quiet
import GrantProbe.Proofs.Transcript

/-!
# One case of a suite

A case of the catalogue that runs in a quiet world passes, is torn down without a failure, and
leaves the world quiet.

* `Setting.Suits`: the setting of a suite over two workspaces;
* `Story.venue`: where the case of a story plays; `valid_venue`;
* `exec_runOne`: the whole of a case; `exec_runAll`: cases, by induction on them.
-/

namespace GrantProbe

open CaseTask (exec)

/-- **A setting of two workspaces** in which a verification of what is granted succeeds. -/
structure Setting.Suits (s : Setting) (home away : String) : Prop where
  scopes : s.scopes = [home, away]
  ne : home ≠ away
  blank : Text.isAllBlank home = false
  group : trackingGroup ∈ s.verifier.groups
  settles : s.verifier.Settles

theorem SortedMap.mem_of_lookup {α : Type} {entries : List (String × α)} {key : String} {a : α}
    (h : SortedMap.lookup key entries = some a) : (key, a) ∈ entries := by
  induction entries with
  | nil => cases h
  | cons e rest ih =>
    unfold SortedMap.lookup at h
    split_ifs at h with hkey
    · obtain rfl := Option.some.inj h
      rw [← hkey]
      exact List.mem_cons_self
    · exact List.mem_cons_of_mem _ (ih h)

theorem exists_reference : ∃ line, LinearModel.reference = .ok line ∧
    ∀ s : CaseState, s.trainedModel = some line → Check.modelLoadedVerdict s = .ok () := by
  have hclose : (LinearModel.reference.toOption.map fun m =>
      decide ((m.predict Check.predictionInput - Check.expectedPrediction).abs ≤
        Check.predictionTolerance)) = some true := by decide +kernel
  cases href : LinearModel.reference with
  | error e => simp [href, Except.toOption] at hclose
  | ok line =>
    refine ⟨line, rfl, fun s hs => ?_⟩
    rw [href] at hclose
    have hle := of_decide_eq_true (Option.some.inj hclose)
    simp only [Check.modelLoadedVerdict, hs, if_pos hle]

namespace Story

variable (draw : Nat → String) (fx : Fixture) (w : World) (home away : String) (s : Story)
  (b : Baseline)
  (now : Nat) (line : LinearModel)

/-- **Where the case of a story plays,** once its identity has been established. -/
def venue (permits : Verb → ResourceKind → Bool) (stocked : Bool) : Venue where
  fx := fx
  place := s.ref.choose home away
  seeded := b
  identity := fx.setting.nextIdentity draw w home
  world := (w.established (fx.setting.nextName draw w) home s.capability).atTime now
  permits := permits
  stocked := stocked
  line := line

/-- The values with which the case begins. -/
def opening : Values where
  experiment := w.server.counter + 1
  run := w.server.counter + 1
  logged := w.server.counter + 1
  experimentName := ""
  modelName := "test-model-" ++ draw 0
  artifact := .sample (draw 0)
  counter := w.server.counter
  draws := w.draws + 1
  lastError := none
  lastAction := none

end Story

section
variable {draw : Nat → String} {fx : Fixture} {w : World} {home away : String} {s : Story}
  {b : Baseline}
  {line : LinearModel}

theorem valid_venue (now : Nat) (hs : fx.setting.Suits home away) (hw : w.Quiet fx)
    (hb : fx.baseline.get? (s.ref.choose home away) = some b)
    (href : LinearModel.reference = .ok line)
    (hloads : ∀ s : CaseState, s.trainedModel = some line → Check.modelLoadedVerdict s = .ok ()) :
    (s.venue draw fx w home away b now line s.permits true).Valid where
  baseline := hb
  serves := (hw.intact _ (SortedMap.mem_of_lookup hb)).serves
  runId := (hw.named _ (SortedMap.mem_of_lookup hb)).runId
  experimentId := (hw.named _ (SortedMap.mem_of_lookup hb)).experimentId
  modelName := (hw.named _ (SortedMap.mem_of_lookup hb)).modelName_isEmpty
  numbered := hw.numbered
  models := fun m hm _ => hw.models m hm
  permitted := fun verb kind => by
    refine (permitsNeed_established hw.enforce (hw.lacks _ _) s.capability now verb kind).trans ?_
    change (s.ref.choose home away == home && s.capability.permits verb kind) = _
    rw [choose_eq_home hs.ne]
    rfl
  place := fun verb kind hyes => by
    change (s.ref == .primary && s.capability.permits verb kind) = true at hyes
    rw [Bool.and_eq_true, beq_iff_eq] at hyes
    change Text.isAllBlank (s.ref.choose home away) = false
    rw [hyes.1]
    exact hs.blank
  reference := href
  loads := hloads

theorem fits_opening (hdraw : ∀ n, isSuffix (draw n) = true) (now : Nat)
    (permits : Verb → ResourceKind → Bool) (stocked : Bool) :
    (s.venue draw fx w home away b now line permits stocked).Fits Sketch.blank
      (Story.opening draw w) where
  counter := Nat.le_refl _
  experiment := Nat.lt_succ_self _
  run := Nat.lt_succ_self _
  logged := Nat.lt_succ_self _
  experiment_le := nofun
  run_le := nofun
  logged_le := nofun
  model := ⟨draw 0, hdraw 0, rfl⟩

theorem point_opening (now : Nat) (permits : Verb → ResourceKind → Bool) (stocked : Bool) :
    (s.venue draw fx w home away b now line permits stocked).point Sketch.blank
      (Story.opening draw w) =
    ⟨CaseState.become (.fresh fx.setting.scopes) (fx.setting.nextIdentity draw w home)
    (s.ref.choose home away),
      (w.established (fx.setting.nextName draw w) home s.capability).atTime now⟩ := by
  have hserver : (s.venue draw fx w home away b now line permits stocked).server Sketch.blank
      (Story.opening draw w) = w.server := by
    have hall (x : Server) : (⟨x.counter, x.experiments ++ [], x.runs ++ [], x.models ++ [],
        x.loggedModels ++ []⟩ : Server) = x := by
      simp only [List.append_nil]
    exact hall w.server
  rw [Venue.point, hserver]
  rfl

/-- **The first step of a case is prepared** where nobody has been granted anything: its identity is
established, and the case stands where the blank sketch says. -/
theorem exec_prepare_opening (hhome : resolveScope fx.setting.scopes .primary = .ok home)
    (hplace : resolveScope fx.setting.scopes s.ref = .ok (s.ref.choose home away))
    (hgroup : trackingGroup ∈ fx.setting.verifier.groups) (hsettles : fx.setting.verifier.Settles)
    (hcluster : w.cluster = .empty trackingGroup 0) (permits : Verb → ResourceKind → Bool)
    (stocked : Bool) (step : Step) :
    ∃ now, exec (World.answerWith draw) ((Catalogue.asGranted s.capability s.ref step).prepare fx)
        ⟨.fresh fx.setting.scopes, w⟩ =
      (.ok (), (s.venue draw fx w home away b now line permits stocked).point Sketch.blank
        (Story.opening draw w)) := by
  obtain ⟨now, hprep | ⟨hno, -⟩⟩ := exec_prepare_granted draw hhome hplace
    (lag_of_empty hcluster) hgroup (lacks_of_empty hcluster _ _) s.capability step
    (.fresh fx.setting.scopes)
  · exact ⟨now, hprep.trans (congrArg _ (point_opening now permits stocked).symm)⟩
  · exact absurd hsettles hno

theorem exec_runCase_of {name : String} {steps : List Step} {p q : Point World}
    {r : Outcome (List StepReport)}
    (hsteps : exec (World.answerWith draw) (runSteps fx steps) p = (r, q)) :
    exec (World.answerWith draw) (runCase fx ⟨name, steps⟩) p =
      (r.map fun reports => ⟨name, reports⟩, q) := by
  unfold runCase
  cases r with
  | error e => exact CaseTask.exec_bind_error hsteps _
  | ok reports => exact (CaseTask.exec_bind_ok hsteps _).trans rfl

theorem Story.case_cons {first : Beat} {rest : List Beat} (hbeats : s.beats = first :: rest) :
    s.case =
      ⟨s.name, Catalogue.asGranted s.capability s.ref first.step :: rest.map Beat.step⟩ := by
  rw [Story.case, hbeats]
  rfl

/-- **A story that succeeds is a case that passes:** it runs to its end, where the sketch says. -/
theorem exec_runCase_story (hdraw : ∀ n, isSuffix (draw n) = true)
    (hs : fx.setting.Suits home away) (hw : w.Quiet fx)
    (hb : fx.baseline.get? (s.ref.choose home away) = some b) (hsucceeds : s.Succeeds) :
    ∃ (vn : Venue) (k : Sketch) (v : Values) (report : CaseReport) (now : Nat), vn.Valid ∧
      vn.Fits k v ∧ vn.fx = fx ∧
      vn.identity = fx.setting.nextIdentity draw w home ∧
      vn.world = (w.established (fx.setting.nextName draw w) home s.capability).atTime now ∧
      exec (World.answerWith draw) (runCase fx s.case) ⟨.fresh fx.setting.scopes, w⟩ =
        (.ok report, vn.point k v) := by
  obtain ⟨line, href, hloads⟩ := exists_reference
  obtain ⟨hne, k, hk⟩ := hsucceeds
  cases hbeats : s.beats with
  | nil => exact absurd hbeats hne
  | cons first rest =>
    have hresolve (ref : ScopeRef) :
        resolveScope fx.setting.scopes ref = .ok (ref.choose home away) := by
      rw [hs.scopes, resolveScope_pair]
    obtain ⟨now, hprep⟩ := exec_prepare_opening (hresolve .primary) (hresolve s.ref) hs.group
      hs.settles hw.cluster s.permits true first.step
    let vn := s.venue draw fx w home away b now line s.permits true
    have hvalid : vn.Valid := valid_venue now hs hw hb href hloads
    rw [hbeats, Sketch.rehearse] at hk
    cases hact : Sketch.blank.act s.permits first.move with
    | none => simp [hact] at hk
    | some k₁ =>
      simp only [hact, Option.ite_none_right_eq_some] at hk
      obtain ⟨report, v₁, hv₁, hstep⟩ :=
        Venue.exec_beat draw hvalid (fits_opening hdraw now s.permits true) hdraw
          (Catalogue.asGranted s.capability s.ref first.step) rfl rfl hprep (fun _ => rfl) hact hk.1
      obtain ⟨reports, v, hv, hrest⟩ := Venue.exec_beats draw hvalid hv₁ hdraw rfl hk.2
      refine ⟨vn, k, v, ⟨s.name, report :: reports⟩, now, hvalid, hv, rfl, rfl, rfl, ?_⟩
      rw [Story.case_cons hbeats]
      refine exec_runCase_of (r := .ok (report :: reports)) ?_
      refine (CaseTask.exec_bind_ok hstep _).trans ?_
      exact (CaseTask.exec_bind_ok hrest _).trans rfl

theorem exec_runAndTearDown_of {c : Case} {r : Outcome CaseReport} {cleanup : CleanupReport}
    {p q last : Point World} (hrun : exec (World.answerWith draw) (runCase fx c) p = (r, q))
    (hteardown : exec (World.answerWith draw) (teardown fx) q = (.ok cleanup, last)) :
    exec (World.answerWith draw) (runAndTearDown fx c) p = (.ok (r, cleanup), last) := by
  have hcaught : exec (World.answerWith draw) (caught (runCase fx c)) p = (.ok r, q) := by
    rw [exec_caught, hrun]
  unfold runAndTearDown
  rw [CaseTask.exec_bind_ok hcaught, CaseTask.exec_bind_ok hteardown]
  rfl

theorem exec_runOne_of {c : Case} {r : Outcome CaseReport} {cleanup : CleanupReport}
    {last : Point World} (hrun : exec (World.answerWith draw) (runAndTearDown fx c)
      ⟨.fresh fx.setting.scopes, w⟩ = (.ok (r, cleanup), last)) :
    ∃ duration, (runOne fx c).exec (World.answerWith draw) w =
      (.ok ⟨c.name, (failureMessage r).isNone, duration, failureMessage r, cleanup.failures⟩,
        last.world) := by
  have hclock (w : World) : (Task.always Probe.clock).exec (World.answerWith draw) w =
      (.ok (.ofMillis w.now), w) :=
    Task.exec_always ..
  have hfresh : (inFreshState fx.setting (runAndTearDown fx c)).exec (World.answerWith draw) w =
      (.ok (r, cleanup), last.world) := by
    rw [exec_inFreshState, hrun]
  refine ⟨⟨(Duration.ofMillis last.world.now).nanos - (Duration.ofMillis w.now).nanos⟩, ?_⟩
  unfold runOne
  rw [Task.exec_bind_ok (hclock w), Task.exec_bind_ok hfresh]
  exact (Task.exec_bind_ok (hclock last.world) _).trans rfl

/-- **A story that succeeds is torn down** without a failure, and leaves the world quiet. -/
theorem exec_runAndTearDown (hdraw : ∀ n, isSuffix (draw n) = true)
    (hs : fx.setting.Suits home away) (hw : w.Quiet fx)
    (hb : fx.baseline.get? (s.ref.choose home away) = some b) (hsucceeds : s.Succeeds) :
    ∃ (report : CaseReport) (cleanup : CleanupReport) (last : Point World), cleanup.failures = [] ∧
      last.world.Quiet fx ∧ exec (World.answerWith draw)
      (runAndTearDown fx s.case) ⟨.fresh fx.setting.scopes, w⟩ =
        (.ok (.ok report, cleanup), last) := by
  obtain ⟨vn, k, v, report, now, hvalid, hv, hfx, hidentity, hworld, hrun⟩ :=
    exec_runCase_story hdraw hs hw hb hsucceeds
  obtain ⟨cleanup, st, hclean, hteardown⟩ := Venue.exec_teardown draw hvalid hv
  have hcluster : vn.world.cluster.without vn.identity.name vn.identity.scope = w.cluster := by
    rw [hworld, hidentity]
    exact (hw.lacks _ _).without_withGrant _
  have hserver : vn.world.server = w.server := by
    rw [hworld]
    rfl
  rw [hcluster, hfx] at hteardown
  refine ⟨report, cleanup, ⟨st, { (vn.point k.cleared v).world with cluster := w.cluster }⟩, hclean,
    ?_, ?_⟩
  · have hcleared : vn.Fits k.cleared v :=
      hv.of_isOwn_eq (Trail.isOwn_cleared _) (Trail.isOwn_cleared _) rfl
    refine ⟨⟨hw.cluster, Venue.numbered_server hvalid.numbered hcleared, hw.named, ?_, ?_⟩, ?_⟩
    · intro x hx
      exact Venue.intact_server (by rw [hserver]; exact hw.intact x hx) _ _
    · exact Venue.left_server (by rw [hserver]; exact hw.left) _ _
    · change vn.world.enforce = true
      rw [hworld]
      exact hw.enforce
  · exact exec_runAndTearDown_of hrun hteardown

theorem exists_story {c : Case} (hc : c ∈ allCases) : ∃ s : Story, s.case = c ∧ s.Succeeds := by
  rw [← map_case_stories] at hc
  obtain ⟨s, hs, rfl⟩ := List.mem_map.mp hc
  exact ⟨s, rfl, stories_succeed s hs⟩

/-- **The case passed** without a failure of its cleanup. -/
structure CaseResult.Passes (c : Case) (r : CaseResult) : Prop where
  name : r.name = c.name
  passed : r.passed = true
  error : r.error = none
  cleanupFailures : r.cleanupFailures = []

/-- **A case of the catalogue passes** in a quiet world, and leaves it quiet. -/
theorem exec_runOne (hdraw : ∀ n, isSuffix (draw n) = true) (hs : fx.setting.Suits home away)
    (hseeded : ∀ scope ∈ fx.setting.scopes, ∃ b, fx.baseline.get? scope = some b) (hw : w.Quiet fx)
    {c : Case} (hc : c ∈ allCases) :
    ∃ r w', r.Passes c ∧ w'.Quiet fx ∧ (runOne fx c).exec (World.answerWith draw) w =
      (.ok r, w') := by
  obtain ⟨s, rfl, hsucceeds⟩ := exists_story hc
  have hmem : s.ref.choose home away ∈ fx.setting.scopes := by
    rw [hs.scopes]
    cases s.ref <;> simp [ScopeRef.choose]
  obtain ⟨b, hb⟩ := hseeded _ hmem
  obtain ⟨report, cleanup, last, hclean, hquiet, hrun⟩ :=
    exec_runAndTearDown hdraw hs hw hb hsucceeds
  obtain ⟨duration, hone⟩ := exec_runOne_of hrun
  exact ⟨_, last.world, ⟨rfl, rfl, rfl, hclean⟩, hquiet, hone⟩

/-- **Cases of the catalogue pass,** in whatever order and however often they are run. The induction
is on the cases, with the quiet world as its invariant. -/
theorem exec_runAll (hdraw : ∀ n, isSuffix (draw n) = true) (hs : fx.setting.Suits home away)
    (hseeded : ∀ scope ∈ fx.setting.scopes, ∃ b, fx.baseline.get? scope = some b) (hw : w.Quiet fx)
    {cases : List Case} (hcases : ∀ c ∈ cases, c ∈ allCases) :
    ∃ results w', List.Forall₂ CaseResult.Passes cases results ∧ w'.Quiet fx ∧
      (runAll fx cases).exec (World.answerWith draw) w = (.ok results, w') := by
  induction cases generalizing w with
  | nil => exact ⟨[], w, .nil, hw, rfl⟩
  | cons c rest ih =>
    obtain ⟨r, w₁, hr, hw₁, hone⟩ := exec_runOne hdraw hs hseeded hw (hcases c List.mem_cons_self)
    obtain ⟨results, w', hall, hw', hrest⟩ := ih hw₁ fun c hc =>
      hcases c (List.mem_cons_of_mem _ hc)
    refine ⟨r :: results, w', .cons hr hall, hw', ?_⟩
    unfold runAll
    rw [Task.exec_bind_ok hone, Task.exec_bind_ok hrest]
    rfl

end

end GrantProbe
