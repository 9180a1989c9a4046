import GrantProbe.Proofs.Permissive.Ending
import GrantProbe.Proofs.Suite.Episode

/-!
# A case in an open world

A tracking server that permits everything fails the cases that check for a denial. It would fail no
other, but the cases share one baseline: a case that is wrongly allowed to delete the seeded model
leaves none to be retrieved for those after it.

* `Case.checks`, `Case.takes`, `Case.deletesSeeded`: what a case is about; `Case.ending`: how it
  ends; `stories_end`, `secondary_stories`: the catalogue;
* `World.Open`: the invariant between two cases;
* `exec_runOne_named`: what a case makes of it that plays in a workspace with a name.
-/

namespace GrantProbe

open CaseTask (exec)

/-! ## What a case is about -/

namespace Case

/-- A step of the case makes this check. -/
def checks (c : Case) (check : Check) : Bool :=
  c.steps.any fun step => step.check.any (·.name == check.name)

/-- A step of the case takes this action. -/
def takes (c : Case) (action : Action) : Bool :=
  c.steps.any fun step => step.action.any (·.name == action.name)

/-- **The case deletes a model that it has not registered:** the seeded one. -/
def deletesSeeded (c : Case) : Bool :=
  c.takes Action.deleteRegisteredModel && !c.takes Action.createRegisteredModel

/-- How the case ends on a permissive server, by whether the seeded model is there. -/
def ending (stocked : Bool) (c : Case) : Ending where
  passed := !c.checks Check.actionDenied && (stocked || !c.checks Check.modelRetrieved)
  stocked := stocked && !c.deletesSeeded

end Case

/-- **How the stories of the catalogue end.** -/
theorem stories_end : ∀ s ∈ stories, s.beats ≠ [] ∧
    ∀ stocked, Sketch.blank.ending stocked s.beats = some (s.case.ending stocked) := by
  have hall : stories.all (fun s => !s.beats.isEmpty && [false, true].all fun stocked =>
      Sketch.blank.ending stocked s.beats == some (s.case.ending stocked)) = true := by
    decide +kernel
  intro s hs
  have h := List.all_eq_true.mp hall s hs
  rw [Bool.and_eq_true, List.all_eq_true] at h
  exact ⟨by simpa using h.1, fun stocked => beq_iff_eq.mp (h.2 stocked (by cases stocked <;> simp))⟩

/-- The moves of the cases in the secondary workspace: they fetch something, or create it. -/
def secondaryMoves : List Move :=
  [.getExperiment, .createExperiment, .createRun, .getRegisteredModel, .createRegisteredModel]

/-- **A story of the secondary workspace** begins with a move that is to be denied there. It neither
deletes the seeded model nor asks for it. -/
theorem secondary_stories : ∀ s ∈ stories, s.ref = .secondary →
    s.case.checks Check.actionDenied = true ∧ s.case.checks Check.modelRetrieved = false ∧
      s.case.deletesSeeded = false ∧
      ∃ m ∈ secondaryMoves, s.beats.head? = some ⟨m, some .actionDenied⟩ := by
  have hall : stories.all (fun s => s.ref == .primary ||
      s.case.checks Check.actionDenied && (!s.case.checks Check.modelRetrieved &&
        (!s.case.deletesSeeded && secondaryMoves.any fun m =>
          s.beats.head? == some ⟨m, some .actionDenied⟩))) = true := by decide +kernel
  intro s hs href
  have h := List.all_eq_true.mp hall s hs
  rw [href] at h
  simpa using h

theorem secondary_beats {s : Story} (hs : s ∈ stories) (href : s.ref = .secondary) :
    ∃ m ∈ secondaryMoves, ∃ rest, s.beats = ⟨m, some .actionDenied⟩ :: rest := by
  obtain ⟨-, -, -, m, hm, hhead⟩ := secondary_stories s hs href
  exact ⟨m, hm, List.head?_eq_some_iff.mp hhead⟩

theorem ending_secondary {s : Story} (hs : s ∈ stories) (href : s.ref = .secondary)
    (stocked : Bool) : s.case.ending stocked = ⟨false, stocked⟩ := by
  obtain ⟨hdenies, -, hkeeps, -⟩ := secondary_stories s hs href
  simp [Case.ending, hdenies, hkeeps]

/-! ## Between two cases -/

/-- **A setting of one workspace or more,** of which the first has a name, in which a verification of
what is granted succeeds. -/
structure Setting.Hosts (s : Setting) (home : String) : Prop where
  scopes : ∃ more, s.scopes = home :: more
  blank : Text.isAllBlank home = false
  group : trackingGroup ∈ s.verifier.groups
  settles : s.verifier.Settles

theorem Setting.Hosts.resolve_primary {s : Setting} {home : String} (hs : s.Hosts home) :
    resolveScope s.scopes .primary = .ok home := by
  obtain ⟨more, hscopes⟩ := hs.scopes
  rw [hscopes]
  rfl

/-- **An open world** between two cases: it enforces nothing, nobody has been granted anything, and
every baseline is served, the primary one maybe without its model. What a case has created is still
there if its workspace is blank. -/
structure World.Open (fx : Fixture) (home : String) (stocked : Bool) (w : World) : Prop where
  enforce : w.enforce = false
  cluster : w.cluster = .empty trackingGroup 0
  numbered : w.server.Numbered
  models : ∀ m ∈ w.server.models, Text.isAllBlank m.workspace = false →
    ∃ x, m.name = "baseline-model-" ++ x
  named : ∀ x ∈ fx.baseline.entries, x.2.Named ∧ IsSeededModel x.2.modelName
  serves : ∀ scope b, fx.baseline.get? scope = some b →
    w.server.Serves (stocked || scope != home) scope b

namespace Venue

variable {vn : Venue} (k : Sketch) (v : Values)

/-- **The world once the case has been torn down.** -/
def tornDown (vn : Venue) (k : Sketch) (v : Values) : World :=
  { (vn.point k.cleared v).world with
    cluster := vn.world.cluster.without vn.identity.name vn.identity.scope }

theorem models_cleared : (vn.server k.cleared v).models = vn.world.server.models := by
  have hnone : k.cleared.model.own [StoredModel.mk vn.place v.modelName] [] = [] :=
    List.eq_nil_iff_forall_not_mem.mpr fun m hm => List.not_mem_nil (mem_own_cleared hm)
  rw [server, hnone, List.append_nil]

theorem serves_cleared {stocked : Bool} {scope : String} {b : Baseline}
    (h : vn.world.server.Serves stocked scope b) :
    (vn.server k.cleared v).Serves stocked scope b where
  experiment := by
    obtain ⟨e, he⟩ := Option.isSome_iff_exists.mp h.experiment
    unfold Server.experiment? at he ⊢
    rw [server, List.find?_append, he, Option.some_or, Option.isSome_some]
  run := by
    obtain ⟨r, hr⟩ := Option.isSome_iff_exists.mp h.run
    unfold Server.run? at hr ⊢
    rw [server, List.find?_append, hr, Option.some_or, Option.isSome_some]
  model := by rw [models_cleared, h.model]

end Venue

/-! ## One case -/

section
variable {draw : Nat → String} {fx : Fixture} {w : World} {home away : String} {s : Story}
  {b : Baseline} {line : LinearModel} {stocked : Bool}

/-- Where the case of a story plays, permitted everything. -/
def Story.openVenue (draw : Nat → String) (fx : Fixture) (w : World) (home away : String)
    (s : Story) (b : Baseline) (now : Nat) (line : LinearModel) (stocked : Bool) : Venue :=
  s.venue draw fx w home away b now line (fun _ _ => true)
    (stocked || s.ref.choose home away != home)

theorem valid_openVenue (now : Nat) (hnamed : Text.isAllBlank (s.ref.choose home away) = false)
    (hw : w.Open fx home stocked) (hb : fx.baseline.get? (s.ref.choose home away) = some b)
    (href : LinearModel.reference = .ok line)
    (hloads : ∀ s : CaseState, s.trainedModel = some line → Check.modelLoadedVerdict s = .ok ()) :
    (s.openVenue draw fx w home away b now line stocked).Valid where
  baseline := hb
  serves := hw.serves _ _ hb
  runId := (hw.named _ (SortedMap.mem_of_lookup hb)).1.runId
  experimentId := (hw.named _ (SortedMap.mem_of_lookup hb)).1.experimentId
  modelName := (hw.named _ (SortedMap.mem_of_lookup hb)).1.modelName_isEmpty
  numbered := hw.numbered
  models := fun m hm hplace => hw.models m hm (hplace ▸ hnamed)
  permitted := fun verb kind => by
    have hfree : ((w.established (fx.setting.nextName draw w) home s.capability).atTime now).enforce =
        false := hw.enforce
    change World.permitsNeed ((w.established (fx.setting.nextName draw w) home
      s.capability).atTime now) _ _ = true
    rw [World.permitsNeed, hfree, Bool.not_false, Bool.or_true, Bool.true_or]
  place := fun _ _ _ => hnamed
  reference := href
  loads := hloads

/-- **The case of a story ends as the story does,** and the run stands where some sketch says. -/
theorem exec_runCase_open (hdraw : ∀ n, isSuffix (draw n) = true)
    (hs : fx.setting.Hosts home)
    (hplace : resolveScope fx.setting.scopes s.ref = .ok (s.ref.choose home away))
    (hnamed : Text.isAllBlank (s.ref.choose home away) = false) (hw : w.Open fx home stocked)
    (hb : fx.baseline.get? (s.ref.choose home away) = some b) (hmem : s ∈ stories) :
    ∃ now line r lost k v,
      let vn := s.openVenue draw fx w home away b now line stocked
      vn.Valid ∧ (vn.without lost).Fits k v ∧
        (vn.without lost).stocked = (s.case.ending vn.stocked).stocked ∧
        r.isOk = (s.case.ending vn.stocked).passed ∧
        exec (World.answerWith draw) (runCase fx s.case) ⟨.fresh fx.setting.scopes, w⟩ =
          (r, (vn.without lost).point k v) := by
  obtain ⟨line, href, hloads⟩ := exists_reference
  obtain ⟨hne, hend⟩ := stories_end s hmem
  cases hbeats : s.beats with
  | nil => exact absurd hbeats hne
  | cons first rest =>
    obtain ⟨now, hprep⟩ := exec_prepare_opening hs.resolve_primary hplace hs.group hs.settles
      hw.cluster (fun _ _ => true) (stocked || s.ref.choose home away != home) first.step
    let vn := s.openVenue draw fx w home away b now line stocked
    have hvalid : vn.Valid := valid_openVenue now hnamed hw hb href hloads
    have hname : IsSeededModel b.modelName := (hw.named _ (SortedMap.mem_of_lookup hb)).2
    have hstory := hend vn.stocked
    rw [hbeats] at hstory
    obtain ⟨r, lost, k, v, hv, hstocked, hok, hrun⟩ :=
      Venue.ends_story hvalid (fits_opening hdraw now _ _) (fun _ _ => rfl) hname hdraw rfl rfl
        hprep hstory
    refine ⟨now, line, r.map fun reports => ⟨s.name, reports⟩, lost, k, v, hvalid, hv, hstocked,
      ?_, ?_⟩
    · rw [← hok]
      cases r <;> rfl
    · rw [Story.case_cons hbeats]
      exact exec_runCase_of hrun

/-- The ending of a case as its own workspace has it, and as the primary one has it. -/
theorem ending_place (hmem : s ∈ stories) (stocked : Bool) :
    let place := s.ref.choose home away
    (s.case.ending (stocked || place != home)).passed = (s.case.ending stocked).passed ∧
      (s.case.ending (stocked || place != home)).stocked =
        ((s.case.ending stocked).stocked || place != home) := by
  cases href : s.ref with
  | primary => simp [ScopeRef.choose]
  | secondary =>
    obtain ⟨-, hretrieves, hkeeps, -⟩ := secondary_stories s hmem href
    simp [ScopeRef.choose, Case.ending, hkeeps, hretrieves]

theorem ending_other (hmem : s ∈ stories) {scope : String} (hother : scope ≠ s.ref.choose home away)
    (stocked : Bool) :
    ((s.case.ending stocked).stocked || scope != home) = (stocked || scope != home) := by
  cases href : s.ref with
  | primary =>
    rw [href] at hother
    change scope ≠ home at hother
    rw [bne_iff_ne.mpr hother, Bool.or_true, Bool.or_true]
  | secondary => rw [ending_secondary hmem href]

theorem isNone_failureMessage {α : Type} (r : Outcome α) : (failureMessage r).isNone = r.isOk := by
  rcases r with (e | p) | a <;> rfl

/-- **A case that has been torn down leaves the world open,** over what it has cost. -/
theorem open_tornDown (hw : w.Open fx home stocked)
    (hb : fx.baseline.get? (s.ref.choose home away) = some b) (hmem : s ∈ stories) {now : Nat}
    {lost : List Cleanable} {k : Sketch} {v : Values} :
    let vn := s.openVenue draw fx w home away b now line stocked
    vn.Valid → (vn.without lost).Fits k v →
    (vn.without lost).stocked = (s.case.ending vn.stocked).stocked →
      ((vn.without lost).tornDown k v).Open fx home (s.case.ending stocked).stocked := by
  intro vn hvalid hv hstocked
  obtain ⟨server, there, hsame⟩ := vn.exists_without_eq lost
  have hcleared : (vn.without lost).Fits k.cleared v :=
    hv.of_isOwn_eq (Trail.isOwn_cleared _) (Trail.isOwn_cleared _) rfl
  refine ⟨?_, ?_, Venue.numbered_server (hvalid.without lost).numbered hcleared, ?_, hw.named,
    fun scope b' hb' => ?_⟩
  · change (vn.without lost).world.enforce = false
    rw [hsame]
    exact hw.enforce
  · change (vn.without lost).world.cluster.without _ _ = _
    rw [hsame]
    exact ((lacks_of_empty hw.cluster _ _).without_withGrant _).trans hw.cluster
  · change ∀ m ∈ ((vn.without lost).server k.cleared v).models, _
    rw [Venue.models_cleared]
    exact fun m hm => hw.models m (Venue.mem_models_of_without hm)
  · refine Venue.serves_cleared k v ?_
    by_cases hplace : scope = s.ref.choose home away
    · subst hplace
      obtain rfl : b = b' := Option.some.inj (hb.symm.trans hb')
      have hserves := (hvalid.without lost).serves
      rw [hstocked, Venue.seeded_without, Venue.place_without] at hserves
      rwa [← (ending_place hmem stocked).2]
    · rw [ending_other hmem hplace]
      exact Venue.serves_without_of_ne (hw.serves scope b' hb') hplace lost

/-- **The case of a story is run as it is told:** it gets its verdict, and leaves the world open. -/
def Story.RunsOpen (s : Story) (draw : Nat → String) (fx : Fixture) (w : World) (home : String)
    (stocked : Bool) : Prop :=
  ∃ r w', r.name = s.case.name ∧ r.passed = (s.case.ending stocked).passed ∧
    w'.Open fx home (s.case.ending stocked).stocked ∧
    (runOne fx s.case).exec (World.answerWith draw) w = (.ok r, w')

/-- **In a workspace with a name** a case is run as it is told. -/
theorem exec_runOne_named (hdraw : ∀ n, isSuffix (draw n) = true) (hs : fx.setting.Hosts home)
    {place : String} (hchoose : s.ref.choose home away = place)
    (hplace : resolveScope fx.setting.scopes s.ref = .ok place)
    (hnamed : Text.isAllBlank place = false) (hw : w.Open fx home stocked)
    (hb : fx.baseline.get? place = some b) (hmem : s ∈ stories) :
    s.RunsOpen draw fx w home stocked := by
  subst hchoose
  obtain ⟨now, line, r, lost, k, v, hvalid, hv, hstocked, hok, hrun⟩ :=
    exec_runCase_open hdraw hs hplace hnamed hw hb hmem
  obtain ⟨cleanup, st, -, hteardown⟩ := Venue.exec_teardown draw (hvalid.without lost) hv
  rw [Venue.fx_without] at hteardown
  obtain ⟨duration, hone⟩ := exec_runOne_of (exec_runAndTearDown_of hrun hteardown)
  have hpassed : r.isOk = (s.case.ending stocked).passed :=
    hok.trans (ending_place hmem stocked).1
  exact ⟨_, _, rfl, (isNone_failureMessage r).trans hpassed,
    open_tornDown hw hb hmem hvalid hv hstocked, hone⟩

end

end GrantProbe
