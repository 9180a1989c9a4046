import GrantProbe.Proofs.Permissive.Elsewhere
import GrantProbe.Proofs.Suite.Whole

/-!
# Which cases a permissive server fails

A case of the catalogue gets its verdict in an open world wherever it plays, and leaves the world
open for the next. So the verdicts of a whole suite can be told from its cases and their order.

* `exec_runOne_open`: one case;
* `verdicts`: the verdicts on cases; `exec_runAll_open`: a run gives them, by induction on the cases;
* `permissive_server_is_caught`: which cases of a suite are failed;
  `retrieval_after_deletion_is_failed`: the order of the cases counts;
  `nameless_creation_is_failed`: so does the name of the first workspace.
-/

namespace GrantProbe

open CaseTask (exec)

/-! ## Cases -/

section
variable {draw : Nat → String} {fx : Fixture} {w : World} {home : String} {stocked : Bool}

/-- **A case of the catalogue ends as it is told to,** and leaves the world open. It plays in the
primary workspace, or in the secondary one if that is there and has a name. -/
theorem exec_runOne_open (hdraw : ∀ n, isSuffix (draw n) = true) (hs : fx.setting.Hosts home)
    (hseeded : ∀ scope ∈ fx.setting.scopes, ∃ b, fx.baseline.get? scope = some b)
    (hw : w.Open fx home stocked) {c : Case} (hc : c ∈ allCases) :
    ∃ r w', r.name = c.name ∧ r.passed = (c.ending stocked).passed ∧
      w'.Open fx home (c.ending stocked).stocked ∧
      (runOne fx c).exec (World.answerWith draw) w = (.ok r, w') := by
  rw [← map_case_stories] at hc
  obtain ⟨s, hmem, rfl⟩ := List.mem_map.mp hc
  obtain ⟨more, hscopes⟩ := hs.scopes
  cases href : s.ref with
  | primary =>
    have hchoose : s.ref.choose home home = home := by rw [href]; rfl
    obtain ⟨b, hb⟩ := hseeded home (by simp [hscopes])
    exact exec_runOne_named hdraw hs hchoose (href ▸ hs.resolve_primary) hs.blank hw hb hmem
  | secondary =>
    cases more with
    | nil => exact exec_runOne_nowhere hs hscopes hw hmem href
    | cons away more =>
      obtain ⟨b, hb⟩ := hseeded away (by simp [hscopes])
      cases hblank : Text.isAllBlank away with
      | true => exact exec_runOne_nameless hdraw hs hscopes hblank hw hb hmem href
      | false =>
        have hchoose : s.ref.choose home away = away := by rw [href]; rfl
        have hplace : resolveScope fx.setting.scopes s.ref = .ok away := by
          rw [hscopes, resolveScope_pair, hchoose]
        exact exec_runOne_named hdraw hs hchoose hplace hblank hw hb hmem

/-- A case is failed for a denial that it checks for, or for a model that it does not retrieve. -/
theorem passed_ending_eq_false {stocked : Bool} {c : Case} :
    (c.ending stocked).passed = false ↔
      c.checks Check.actionDenied = true ∨
        c.checks Check.modelRetrieved = true ∧ stocked = false := by
  rw [Case.ending, Bool.and_eq_false_iff, Bool.not_eq_false', Bool.or_eq_false_iff,
    Bool.not_eq_false', and_comm]

/-- **The verdicts on cases,** one after the other: their names, and whether they are passed. -/
def verdicts : Bool → List Case → List (String × Bool)
  | _, [] => []
  | stocked, c :: rest =>
    (c.name, (c.ending stocked).passed) :: verdicts (c.ending stocked).stocked rest

/-- The seeded model is there for a case unless one before it has deleted it. -/
theorem getElem?_verdicts (stocked : Bool) (cases : List Case) (i : Nat) :
    (verdicts stocked cases)[i]? = cases[i]?.map fun c =>
      (c.name, (c.ending (stocked && !(cases.take i).any Case.deletesSeeded)).passed) := by
  induction cases generalizing stocked i with
  | nil => rfl
  | cons c rest ih =>
    cases i with
    | zero => simp [verdicts]
    | succ i =>
      rw [verdicts, List.getElem?_cons_succ, ih, List.getElem?_cons_succ, List.take_succ_cons,
        List.any_cons, Bool.not_or, ← Bool.and_assoc]
      rfl

theorem map_fst_verdicts (stocked : Bool) (cases : List Case) :
    (verdicts stocked cases).map Prod.fst = cases.map Case.name := by
  induction cases generalizing stocked with
  | nil => rfl
  | cons c rest ih => rw [verdicts, List.map_cons, ih, List.map_cons]

/-- **Cases of the catalogue** get the verdicts that they are told to get, in whatever order and
however often they are run. The induction is on the cases, with the open world as its invariant. -/
theorem exec_runAll_open (hdraw : ∀ n, isSuffix (draw n) = true)
    (hs : fx.setting.Hosts home)
    (hseeded : ∀ scope ∈ fx.setting.scopes, ∃ b, fx.baseline.get? scope = some b)
    (hw : w.Open fx home stocked) {cases : List Case} (hcases : ∀ c ∈ cases, c ∈ allCases) :
    ∃ results w' left, results.map (fun r => (r.name, r.passed)) = verdicts stocked cases ∧
      w'.Open fx home left ∧
      (runAll fx cases).exec (World.answerWith draw) w = (.ok results, w') := by
  induction cases generalizing w stocked with
  | nil => exact ⟨[], w, stocked, rfl, hw, rfl⟩
  | cons c rest ih =>
    obtain ⟨r, w₁, hname, hpassed, hw₁, hone⟩ :=
      exec_runOne_open hdraw hs hseeded hw (hcases c List.mem_cons_self)
    obtain ⟨results, w', left, hall, hw', hrest⟩ := ih hw₁ fun c hc =>
      hcases c (List.mem_cons_of_mem _ hc)
    refine ⟨r :: results, w', left, ?_, hw', ?_⟩
    · rw [List.map_cons, hname, hpassed, hall, verdicts]
    · unfold runAll
      rw [Task.exec_bind_ok hone, Task.exec_bind_ok hrest]
      rfl

end

/-! ## A suite -/

section
variable {draw : Nat → String} {setting : Setting} {home : String}

/-- Seeding a world that enforces nothing opens it, with every seeded model in its place. -/
theorem exec_seedScopes_open (hdraw : ∀ n, isSuffix (draw n) = true)
    (home : String) (hdistinct : setting.scopes.Nodup) :
    ∃ baseline w, (seedScopes setting setting.scopes .empty).exec (World.answerWith draw)
        (World.fresh trackingGroup 0 false) = (.ok baseline, w) ∧
      w.Open ⟨setting, baseline⟩ home true ∧
      ∀ scope ∈ setting.scopes, ∃ b, baseline.get? scope = some b := by
  obtain ⟨baseline, w, hseed, hw, henforce, hdrawn, hall⟩ := exec_seedScopes_atRest draw hdistinct
    (fun _ _ _ hx => absurd hx List.not_mem_nil) (atRest_fresh setting false)
  refine ⟨baseline, w, hseed, ⟨henforce, hw.cluster, hw.numbered, fun m hm _ => hw.models m hm,
    fun x hx => ?_, fun scope b hb => (hw.intact _ (SortedMap.mem_of_lookup hb)).serves⟩,
    fun scope hscope => Option.isSome_iff_exists.mp (hall _ (Or.inl hscope))⟩
  obtain ⟨n, hname⟩ := (hdrawn x hx).resolve_left List.not_mem_nil
  exact ⟨hw.named x hx, draw n, hdraw n, hname⟩

theorem exec_whole_open (hdraw : ∀ n, isSuffix (draw n) = true) (name : String)
    (hs : setting.Hosts home) (hdistinct : setting.scopes.Nodup) {cases : List Case}
    (hcases : ∀ c ∈ cases, c ∈ allCases) :
    ∃ results w, results.map (fun r => (r.name, r.passed)) = verdicts true cases ∧
      (Suite.whole name setting cases).exec (World.answerWith draw)
        (World.fresh trackingGroup 0 false) = (.ok ⟨name, results⟩, w) := by
  obtain ⟨baseline, w₁, hseed, hw₁, hseeded⟩ := exec_seedScopes_open hdraw home hdistinct
  let fx : Fixture := ⟨setting, baseline⟩
  have hhosts : fx.setting.Hosts home := hs
  obtain ⟨results, w₂, left, hverdicts, hw₂, hrun⟩ :=
    exec_runAll_open hdraw hhosts hseeded hw₁ hcases
  obtain ⟨report, hremove⟩ := exec_removeScopes_clear (w := w₂) draw setting
    fun x hx => (hw₂.named x hx).1
  let w₃ : World := { w₂ with server := w₂.server.clearAll baseline.entries }
  have hbegun : (Suite.seeded name setting).exec (World.answerWith draw)
      (World.fresh trackingGroup 0 false) = (.ok ⟨name, fx, []⟩, w₁) := by
    unfold Suite.seeded seedBaseline
    exact (Task.exec_bind_ok hseed _).trans rfl
  have hran : (Suite.runAll ⟨name, fx, []⟩ cases).exec (World.answerWith draw) w₁ =
      (.ok ⟨name, fx, results⟩, w₂) := by
    unfold Suite.runAll
    exact (Task.exec_bind_ok hrun _).trans rfl
  have hfinished : (Suite.finish ⟨name, fx, results⟩).exec (World.answerWith draw) w₂ =
      (.ok ⟨name, results⟩, w₃) := by
    unfold Suite.finish removeBaseline
    exact (Task.exec_bind_ok hremove _).trans rfl
  refine ⟨results, w₃, hverdicts, ?_⟩
  unfold Suite.whole
  rw [Task.exec_bind_ok hbegun, Task.exec_bind_ok hran, hfinished]

end

/-- **A server that permits everything is caught** by the cases that check for a denial, and besides
by those that retrieve the seeded model after a case that has deleted it: whatever the cases of the
catalogue, their order and their repetitions, a suite over them comes to its end, and no other case
is failed. -/
theorem permissive_server_is_caught (draws : Nat → Nat → Nat) (name : String) {setting : Setting}
    {home : String} (hs : setting.Hosts home) (hdistinct : setting.scopes.Nodup)
    {cases : List Case} (hcases : ∀ c ∈ cases, c ∈ allCases) :
    ∃ summary w, (Suite.whole name setting cases).exec
        (World.answerWith fun n => suffixOf (draws n)) (World.fresh trackingGroup 0 false) =
          (.ok summary, w) ∧
      summary.results.map CaseResult.name = cases.map Case.name ∧
      ∀ i c r, cases[i]? = some c → summary.results[i]? = some r →
        (r.passed = false ↔ c.checks Check.actionDenied = true ∨
          c.checks Check.modelRetrieved = true ∧ ∃ d ∈ cases.take i, d.deletesSeeded = true) := by
  obtain ⟨results, w, hverdicts, hrun⟩ :=
    exec_whole_open (fun n => isSuffix_suffixOf (draws n)) name hs hdistinct hcases
  refine ⟨⟨name, results⟩, w, hrun, ?_, fun i c r hc hr => ?_⟩
  · have hnames := congrArg (List.map Prod.fst) hverdicts
    rwa [List.map_map, map_fst_verdicts] at hnames
  · have hverdict := congrArg (·[i]?) hverdicts
    simp only [List.getElem?_map, getElem?_verdicts, hc, hr, Option.map_some, Option.some.injEq,
      Prod.mk.injEq] at hverdict
    rw [hverdict.2, passed_ending_eq_false, Bool.true_and, Bool.not_eq_false', List.any_eq_true]

theorem hosts_twoWorkspaces : twoWorkspaces.Hosts "left" where
  scopes := ⟨["right"], rfl⟩
  blank := by decide
  group := by decide
  settles := Or.inl rfl

/-- **The catalogue in its own order** retrieves the seeded model before any case can delete it: the
cases that check for a denial are those that are failed. -/
theorem catalogue_catches_permissive_server :
    ∃ summary w, (Suite.whole "suite" twoWorkspaces allCases).exec
        (World.answerWith fun n => suffixOf fun i => n / Nat.pow 36 i)
        (World.fresh trackingGroup 0 false) = (.ok summary, w) ∧
      summary.results.length = 35 ∧
      ∀ (i : Nat) (c : Case) (r : CaseResult), allCases[i]? = some c → summary.results[i]? = some r →
        (r.passed = false ↔ c.checks Check.actionDenied = true) := by
  have hearly : ∀ i : Fin allCases.length, allCases[i].checks Check.modelRetrieved = true →
      ∀ d ∈ allCases.take i, d.deletesSeeded = false := by decide +kernel
  obtain ⟨summary, w, hrun, hnames, hfailed⟩ :=
    permissive_server_is_caught (fun n i => n / Nat.pow 36 i) "suite" hosts_twoWorkspaces (by decide)
      fun c (hc : c ∈ allCases) => hc
  refine ⟨summary, w, hrun, ?_, fun i c r hc hr => (hfailed i c r hc hr).trans ?_⟩
  · have hlength : summary.results.length = allCases.length := by
      simpa using congrArg List.length hnames
    exact hlength.trans rfl
  · refine or_iff_left ?_
    rintro ⟨hretrieves, d, hd, hdeletes⟩
    obtain ⟨hlt, rfl⟩ := List.getElem?_eq_some_iff.mp hc
    rw [hearly ⟨i, hlt⟩ hretrieves d hd] at hdeletes
    cases hdeletes

/-- Where a case that deletes the seeded model has come before, a case that checks for no denial is
failed too. -/
theorem retrieval_after_deletion_is_failed :
    ∃ deletion ∈ allCases, ∃ retrieval ∈ allCases,
      deletion.name = "get cannot delete registered model" ∧
      retrieval.name = "get can get registered model" ∧
      retrieval.checks Check.actionDenied = false ∧
      ∃ summary w, (Suite.whole "suite" twoWorkspaces [deletion, retrieval]).exec
          (World.answerWith fun n => suffixOf fun i => n / Nat.pow 36 i)
          (World.fresh trackingGroup 0 false) = (.ok summary, w) ∧
        summary.results.map (fun r => (r.name, r.passed)) =
          [(deletion.name, false), (retrieval.name, false)] := by
  obtain ⟨deletion, hdeletion, hdname, hpair⟩ : ∃ c ∈ allCases,
      c.name = "get cannot delete registered model" ∧
        c.ending true = ⟨false, false⟩ := by decide +kernel
  obtain ⟨retrieval, hretrieval, hrname, hdenies, hlacks⟩ : ∃ c ∈ allCases,
      c.name = "get can get registered model" ∧ c.checks Check.actionDenied = false ∧
        (c.ending false).passed = false := by decide +kernel
  have hcases : ∀ c ∈ [deletion, retrieval], c ∈ allCases := by
    simp [hdeletion, hretrieval]
  obtain ⟨results, w, hverdicts, hrun⟩ := exec_whole_open
    (fun n => isSuffix_suffixOf fun i => n / Nat.pow 36 i) "suite" hosts_twoWorkspaces (by decide) hcases
  refine ⟨deletion, hdeletion, retrieval, hretrieval, hdname, hrname, hdenies, _, w, hrun, ?_⟩
  rw [hverdicts, verdicts, verdicts, verdicts, hpair, hlacks]

/-- Where the primary workspace has a blank name, what a case creates in it cannot be registered: the
case is failed, though it checks for no denial and retrieves no model. -/
theorem nameless_creation_is_failed :
    ∃ c ∈ allCases, c.name = "edit can create experiment" ∧
      c.checks Check.actionDenied = false ∧ c.checks Check.modelRetrieved = false ∧
      ∃ summary w, (Suite.whole "suite" namelessPrimary [c]).exec
          (World.answerWith fun n => suffixOf fun i => n / Nat.pow 36 i)
          (World.fresh trackingGroup 0 false) = (.ok summary, w) ∧
        summary.results.map CaseResult.passed = [false] := by
  obtain ⟨c, hc, hname, hdenies, hretrieves, hends⟩ : ∃ c ∈ allCases,
      c.name = "edit can create experiment" ∧
        c.checks Check.actionDenied = false ∧ c.checks Check.modelRetrieved = false ∧
        (Suite.whole "suite" namelessPrimary [c]).endsIn
          (World.answerWith fun n => suffixOf fun i => n / Nat.pow 36 i)
          (World.fresh trackingGroup 0 false) (fun summary _ =>
            summary.results.map CaseResult.passed == [false]) = true := by decide +kernel
  obtain ⟨summary, w, hrun, hfailed⟩ := Task.exec_of_endsIn hends
  exact ⟨c, hc, hname, hdenies, hretrieves, summary, w, hrun, beq_iff_eq.mp hfailed⟩

end GrantProbe
