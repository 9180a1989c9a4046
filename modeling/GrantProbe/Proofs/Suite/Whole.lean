import GrantProbe.Proofs.Suite.Episode
import GrantProbe.Proofs.Suite.Seed
import GrantProbe.Proofs.World.Memory

/-!
# A whole suite

Cases of the catalogue, in whatever order and however often they are run, all pass in a world that
enforces what is granted; and once the suite is finished nothing that it created is left.

* `World.Cleared`: nothing is left; `Suite.whole`: a suite from its beginning to its end;
* `suite_passes_and_cleans_up`: the suite, over any cases of the catalogue;
  `catalogue_passes_both_ways` is one, and `nameless_primary_keeps` is about a primary workspace
  with a blank name.
-/

namespace GrantProbe

/-- **Nothing is left** in the world: no role, binding, account or model, and no experiment or run
that is not deleted. -/
structure World.Cleared (w : World) : Prop where
  roles : w.cluster.roles = []
  bindings : w.cluster.bindings = []
  accounts : w.cluster.accounts = []
  models : w.server.models = []
  experiments : ∀ e ∈ w.server.experiments, e.stage = .deleted
  runs : ∀ r ∈ w.server.runs, r.stage = .deleted

/-- **The whole of a suite:** it is seeded, cases are run, and it is finished. -/
def Suite.whole (name : String) (setting : Setting) (cases : List Case) : Probe SuiteSummary := do
  let seeded ← Suite.seeded name setting
  let ran ← seeded.runAll cases
  ran.finish

theorem isSuffix_suffixOf (draws : Nat → Nat) : isSuffix (suffixOf draws) = true := by
  have hlength : (suffixOf draws).length = suffixLength := by simp [suffixOf]
  have hchar (n : Nat) : suffixChar n ∈ suffixAlphabet := by
    have hlt : n % suffixAlphabet.length < suffixAlphabet.length := Nat.mod_lt _ (by decide)
    rw [suffixChar, List.getD_eq_getElem?_getD, List.getElem?_eq_getElem hlt]
    exact List.getElem_mem hlt
  rw [isSuffix, hlength, Bool.and_eq_true, List.all_eq_true]
  refine ⟨by decide, fun c hc => ?_⟩
  have hmem : c ∈ (List.range suffixLength).map fun i => suffixChar (draws i) := by
    simpa [suffixOf] using hc
  obtain ⟨i, -, rfl⟩ := List.mem_map.mp hmem
  exact List.contains_iff_mem.mpr (hchar _)

theorem atRest_fresh (setting : Setting) (enforce : Bool) :
    (World.fresh trackingGroup 0 enforce).AtRest ⟨setting, .empty⟩ where
  cluster := rfl
  numbered := ⟨nofun, nofun, nofun⟩
  named := fun _ hx => absurd hx List.not_mem_nil
  intact := fun _ hx => absurd hx List.not_mem_nil
  left := ⟨nofun, nofun, nofun⟩

theorem quiet_fresh (setting : Setting) :
    (World.fresh trackingGroup 0 true).Quiet ⟨setting, .empty⟩ :=
  ⟨atRest_fresh setting true, rfl⟩

theorem cleared_of_left {w : World} {server : Server}
    (hcluster : w.cluster = .empty trackingGroup 0) (hleft : server.Left []) :
    { w with server := server }.Cleared where
  roles := by rw [hcluster]; rfl
  bindings := by rw [hcluster]; rfl
  accounts := by rw [hcluster]; rfl
  models := List.eq_nil_iff_forall_not_mem.mpr fun m hm => by
    obtain ⟨x, hx, -⟩ := hleft.models m hm
    exact absurd hx List.not_mem_nil
  experiments := fun e he => (hleft.experiments e he).resolve_right fun ⟨_, hx, _⟩ =>
    absurd hx List.not_mem_nil
  runs := fun r hr => (hleft.runs r hr).resolve_right fun ⟨_, hx, _⟩ => absurd hx List.not_mem_nil

/-- **A suite over cases of the catalogue** is seeded, run and finished without an error, whatever
the cases, their order and their repetitions. Every case passes and is cleaned up after; when the
last one has run, the baseline of both workspaces is as it was seeded; and when the suite is
finished, nothing is left, and every experiment and every run that was ever created is deleted. The
name of the primary workspace is not blank, as `parseWorkspaces` has it: `namelessPrimary` is a
setting where it is. -/
theorem suite_passes_and_cleans_up (draws : Nat → Nat → Nat) (name : String) {setting : Setting}
    {home away : String} (hscopes : setting.scopes = [home, away]) (hne : home ≠ away)
    (hblank : Text.isAllBlank home = false) (hgroup : trackingGroup ∈ setting.verifier.groups)
    (hsettles : setting.verifier.Settles) {cases : List Case} (hcases : ∀ c ∈ cases, c ∈ allCases) :
    let answers := World.answerWith fun n => suffixOf (draws n)
    let start := World.fresh trackingGroup 0 true
    ∃ (seeded ran : Suite) (summary : SuiteSummary) (w₁ w₂ w₃ : World),
      (Suite.seeded name setting).exec answers start = (.ok seeded, w₁) ∧
      (seeded.runAll cases).exec answers w₁ = (.ok ran, w₂) ∧
      ran.finish.exec answers w₂ = (.ok summary, w₃) ∧
      List.Forall₂ CaseResult.Passes cases summary.results ∧
      (∀ scope ∈ [home, away], ∃ b, seeded.fixture.baseline.get? scope = some b ∧
        w₂.server.Intact scope b) ∧
      w₃.Cleared ∧
      (∀ id, (Suite.whole name setting cases).run.CreatesExperiment answers start id →
        ∃ e ∈ w₃.server.experiments, e.id = id ∧ e.stage = .deleted) ∧
      (∀ id, (Suite.whole name setting cases).run.CreatesRun answers start id →
        ∃ r ∈ w₃.server.runs, r.id = id ∧ r.stage = .deleted) := by
  intro answers start
  have hdraw : ∀ n, isSuffix (suffixOf (draws n)) = true := fun n => isSuffix_suffixOf (draws n)
  have hdistinct : setting.scopes.Nodup := by simp [hscopes, hne]
  obtain ⟨baseline, w₁, hseed, hw₁, hall⟩ := exec_seedScopes (fun n => suffixOf (draws n)) hdistinct
    (fun _ _ _ hx => absurd hx List.not_mem_nil) (quiet_fresh setting)
  let fx : Fixture := ⟨setting, baseline⟩
  have hsuits : fx.setting.Suits home away := ⟨hscopes, hne, hblank, hgroup, hsettles⟩
  have hbaseline : ∀ scope ∈ fx.setting.scopes, ∃ b, fx.baseline.get? scope = some b :=
    fun scope hscope => Option.isSome_iff_exists.mp (hall scope (Or.inl hscope))
  obtain ⟨results, w₂, hpasses, hw₂, hrun⟩ := exec_runAll hdraw hsuits hbaseline hw₁ hcases
  obtain ⟨report, server, hremove, hleft⟩ :=
    exec_removeScopes (fun n => suffixOf (draws n)) setting hw₂.named hw₂.left
  let w₃ : World := { w₂ with server := server }
  have hseeded : (Suite.seeded name setting).exec answers start = (.ok ⟨name, fx, []⟩, w₁) := by
    unfold Suite.seeded seedBaseline
    exact (Task.exec_bind_ok hseed _).trans rfl
  have hran : (Suite.runAll ⟨name, fx, []⟩ cases).exec answers w₁ =
      (.ok ⟨name, fx, results⟩, w₂) := by
    unfold Suite.runAll
    exact (Task.exec_bind_ok hrun _).trans rfl
  have hfinished : (Suite.finish ⟨name, fx, results⟩).exec answers w₂ =
      (.ok ⟨name, results⟩, w₃) := by
    unfold Suite.finish removeBaseline
    exact (Task.exec_bind_ok hremove _).trans rfl
  have hwhole : (Suite.whole name setting cases).exec answers start =
      (.ok ⟨name, results⟩, w₃) := by
    unfold Suite.whole
    rw [Task.exec_bind_ok hseeded, Task.exec_bind_ok hran, hfinished]
  have hend : ((Suite.whole name setting cases).run.run answers start).2 = w₃ :=
    congrArg Prod.snd hwhole
  have hcleared : w₃.Cleared := cleared_of_left hw₂.cluster hleft
  refine ⟨⟨name, fx, []⟩, ⟨name, fx, results⟩, ⟨name, results⟩, w₁, w₂, w₃, hseeded, hran,
    hfinished, hpasses, ?_, hcleared, ?_, ?_⟩
  · intro scope hscope
    rw [← hscopes] at hscope
    obtain ⟨b, hb⟩ := hbaseline scope hscope
    exact ⟨b, hb, hw₂.intact _ (SortedMap.mem_of_lookup hb)⟩
  · intro id hcreated
    obtain ⟨e, he, hid⟩ := List.mem_map.mp (hend ▸ hcreated.stored)
    exact ⟨e, he, hid, hcleared.experiments e he⟩
  · intro id hcreated
    obtain ⟨r, hr, hid⟩ := List.mem_map.mp (hend ▸ hcreated.stored)
    exact ⟨r, hr, hid, hcleared.runs r hr⟩

/-- Two workspaces. -/
def twoWorkspaces : Setting := ⟨["left", "right"], ⟨"admin-token"⟩, .standard, "test-user"⟩

/-- The catalogue backwards and then forwards, with suffixes that do not repeat for a long time:
seventy cases pass, and nothing is left. -/
theorem catalogue_passes_both_ways :
    let answers := World.answerWith fun n => suffixOf fun i => n / Nat.pow 36 i
    let cases := allCases.reverse ++ allCases
    ∃ (seeded ran : Suite) (summary : SuiteSummary) (w₁ w₂ w₃ : World),
      (Suite.seeded "suite" twoWorkspaces).exec answers (World.fresh trackingGroup 0 true) =
        (.ok seeded, w₁) ∧
      (seeded.runAll cases).exec answers w₁ = (.ok ran, w₂) ∧
      ran.finish.exec answers w₂ = (.ok summary, w₃) ∧
      List.Forall₂ CaseResult.Passes cases summary.results ∧ summary.results.length = 70 ∧
        w₃.Cleared := by
  intro answers cases
  have hcases : ∀ c ∈ cases, c ∈ allCases := fun c hc =>
    (List.mem_append.mp hc).elim List.mem_reverse.mp id
  obtain ⟨seeded, ran, summary, w₁, w₂, w₃, hseeded, hran, hfinished, hpasses, -, hcleared, -, -⟩ :=
    suite_passes_and_cleans_up (fun n i => n / Nat.pow 36 i) "suite"
      (rfl : twoWorkspaces.scopes = ["left", "right"])
      (by decide) (by decide) (by decide) (Or.inl rfl) hcases
  have hlength : summary.results.length = 70 := hpasses.length_eq.symm.trans rfl
  exact ⟨seeded, ran, summary, w₁, w₂, w₃, hseeded, hran, hfinished, hpasses, hlength, hcleared⟩

/-- Two workspaces, of which the first has a blank name. -/
def namelessPrimary : Setting := ⟨[" ", "right"], ⟨"admin-token"⟩, .standard, "test-user"⟩

/-- **In a primary workspace with a blank name** what a case creates is not registered for cleanup:
the case fails, and its experiment outlives the suite. -/
theorem nameless_primary_keeps :
    ∃ c ∈ allCases, c.name = "edit can create experiment" ∧
      ∃ summary w, (Suite.whole "suite" namelessPrimary [c]).exec
          (World.answerWith fun n => suffixOf fun i => n / Nat.pow 36 i)
          (World.fresh trackingGroup 0 true) = (.ok summary, w) ∧
        summary.results.map CaseResult.passed = [false] ∧
        ∃ e ∈ w.server.experiments, e.stage = .active := by
  obtain ⟨c, hc, hname, hends⟩ : ∃ c ∈ allCases, c.name = "edit can create experiment" ∧
      (Suite.whole "suite" namelessPrimary [c]).endsIn
        (World.answerWith fun n => suffixOf fun i => n / Nat.pow 36 i)
        (World.fresh trackingGroup 0 true) (fun summary w =>
          summary.results.map CaseResult.passed == [false] &&
            w.server.experiments.any (·.stage == .active)) = true := by decide +kernel
  obtain ⟨summary, w, hrun, htest⟩ := Task.exec_of_endsIn hends
  simp only [Bool.and_eq_true, beq_iff_eq, List.any_eq_true] at htest
  exact ⟨c, hc, hname, summary, w, hrun, htest⟩

end GrantProbe
