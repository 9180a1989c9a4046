import GrantProbe.Proofs.Case.Teardown
import GrantProbe.Proofs.Suite.Quiet
import GrantProbe.Suite.Baseline

/-!
# Seeding and removing the baseline

Seeding workspaces one after the other keeps the world at rest, with one baseline more each time.
Removing the baselines of such a world leaves nothing alive.

* `Server.seed`, `exec_seedScope`: the server after a workspace has been seeded;
* `exec_seedScopes`: seeding workspaces, by induction on them;
* `Server.clear`, `exec_removeScopes`: removing baselines, by induction on them.
-/

namespace GrantProbe

/-! ## The entries of a map -/

theorem SortedMap.mem_insertEntry {α : Type} {key : String} (a : α) {entries : List (String × α)}
    (hnew : ∀ x ∈ entries, x.1 ≠ key) (x : String × α) :
    x ∈ insertEntry key a entries ↔ x = (key, a) ∨ x ∈ entries := by
  induction entries with
  | nil => simp [insertEntry]
  | cons e rest ih =>
    have hne : e.1 ≠ key := hnew e List.mem_cons_self
    unfold insertEntry
    rw [if_neg hne]
    split_ifs with hlt
    · exact List.mem_cons
    · rw [List.mem_cons, ih fun y hy => hnew y (List.mem_cons_of_mem _ hy), List.mem_cons]
      exact or_left_comm

theorem SortedMap.mem_insert {α : Type} {m : SortedMap α} {key : String}
    (hnew : ∀ x ∈ m.entries, x.1 ≠ key) (a : α) (x : String × α) :
    x ∈ (m.insert key a).entries ↔ x = (key, a) ∨ x ∈ m.entries :=
  mem_insertEntry a hnew x

/-! ## Seeding -/

/-- The baseline that is seeded next. -/
def seededBaseline (counter : Nat) (suffix : String) : Baseline :=
  ⟨toString (counter + 1), runIdOf (counter + 2), "baseline-model-" ++ suffix⟩

theorem named_seededBaseline (counter : Nat) (suffix : String) :
    (seededBaseline counter suffix).Named where
  experimentId := Text.isEmpty_of_not_isAllBlank (isAllBlank_toString _)
  runId := Text.isEmpty_of_not_isAllBlank (isAllBlank_runIdOf _)
  modelName := ⟨suffix, rfl⟩

/-- The server after a workspace has been seeded. -/
def Server.seed (s : Server) (scope suffix : String) : Server where
  counter := s.counter + 2
  experiments := s.experiments ++
    [⟨toString (s.counter + 1), scope, "baseline-experiment-" ++ suffix, .active⟩]
  runs := s.runs ++ [⟨runIdOf (s.counter + 2), scope, toString (s.counter + 1), "RUNNING", .active,
    []⟩]
  models := s.models ++ [⟨scope, "baseline-model-" ++ suffix⟩]
  loggedModels := s.loggedModels

/-- The world after a workspace has been seeded. -/
def World.seed (w : World) (draw : Nat → String) (scope : String) : World :=
  { w with server := w.server.seed scope (draw w.draws), draws := w.draws + 1 }

section
variable {draw : Nat → String} {w : World} {setting : Setting} {scope : String}

/-- **Seeding a workspace** that has no models. -/
theorem exec_seedScope (draw : Nat → String) (setting : Setting)
    (hmodels : ∀ m ∈ w.server.models, m.workspace ≠ scope) :
    (seedScope setting scope).exec (World.answerWith draw) w =
      (.ok (seededBaseline w.server.counter (draw w.draws), none), w.seed draw scope) := by
  let w₀ : World := { w with draws := w.draws + 1 }
  let s₁ : Server := { w.server with
    counter := w.server.counter + 1
    experiments := w.server.experiments ++
      [⟨toString (w.server.counter + 1), scope, "baseline-experiment-" ++ draw w.draws, .active⟩] }
  let s₂ : Server := { s₁ with
    counter := w.server.counter + 2
    runs := w.server.runs ++
      [⟨runIdOf (w.server.counter + 2), scope, toString (w.server.counter + 1), "RUNNING", .active,
      []⟩] }
  have hsuffix : Probe.suffix.exec (World.answerWith draw) w = (.ok (draw w.draws), w₀) :=
    exec_suffix ..
  have hexperiment : (Probe.tracking (setting.adminClient scope)
      (.createExperiment ("baseline-experiment-" ++ draw w.draws))).exec
      (World.answerWith draw) w₀ =
        (.ok (toString (w.server.counter + 1)), { w₀ with server := s₁ }) := exec_admin_ok rfl
  have hrun : (Probe.tracking (setting.adminClient scope)
      (.createRun (toString (w.server.counter + 1)))).exec
      (World.answerWith draw) { w₀ with server := s₁ } =
        (.ok (runIdOf (w.server.counter + 2)), { w₀ with server := s₂ }) := by
    refine exec_admin_ok ?_
    have hany : s₁.experiments.any (·.id == toString (w.server.counter + 1)) = true := by
      simp [s₁]
    change s₁.perform scope (.createRun (toString (w.server.counter + 1))) = _
    rw [Server.perform, hany, if_pos rfl]
    rfl
  have hmodel : (Probe.tracking (setting.adminClient scope)
      (.createRegisteredModel ("baseline-model-" ++ draw w.draws))).exec (World.answerWith draw)
        { w₀ with server := s₂ } =
          (.ok ("baseline-model-" ++ draw w.draws), w.seed draw scope) := by
    have hothers : s₂.models.filter (! ·.isAt scope ("baseline-model-" ++ draw w.draws)) =
        w.server.models := by
      refine List.filter_eq_self.mpr fun m hm => ?_
      rw [StoredModel.isAt, beq_eq_false_iff_ne.mpr (hmodels m hm)]
      rfl
    refine exec_admin_ok (w := { w₀ with server := s₂ }) ?_
    change s₂.perform scope (.createRegisteredModel ("baseline-model-" ++ draw w.draws)) = _
    rw [Server.perform, hothers]
    rfl
  unfold seedScope
  rw [Task.exec_bind_ok (exec_adminClientFor draw w setting scope), Task.exec_bind_ok hsuffix,
    Task.exec_bind_ok (Task.exec_attempt_ok hexperiment)]
  refine (Task.exec_bind_ok (Task.exec_attempt_ok hrun) _).trans ?_
  refine (Task.exec_bind_ok (Task.exec_attempt_ok hmodel) _).trans ?_
  rfl

theorem intact_seed {s : Server} (h : s.Numbered) (scope suffix : String) :
    (s.seed scope suffix).Intact scope (seededBaseline s.counter suffix) := by
  have hexperiment := find?_append_own (h.isAt_experiment (Nat.lt_add_one s.counter) scope)
    [⟨toString (s.counter + 1), scope, "baseline-experiment-" ++ suffix, .active⟩]
  have hrun := find?_append_own (h.isAt_run (n := s.counter + 2) (by omega) scope)
    [⟨runIdOf (s.counter + 2), scope, toString (s.counter + 1), "RUNNING", .active, []⟩]
  refine ⟨?_, ?_, ?_⟩
  · rw [Server.experiment?, Server.seed, seededBaseline, hexperiment]
    simp [StoredExperiment.isAt]
  · rw [Server.run?, Server.seed, seededBaseline, hrun]
    simp [StoredRun.isAt]
  · simp [Server.seed, seededBaseline, StoredModel.isAt]

theorem numbered_seed {s : Server} (h : s.Numbered) (scope suffix : String) :
    (s.seed scope suffix).Numbered := by
  have hadded := (h.add_experiment scope ("baseline-experiment-" ++ suffix) .active).add_run scope
    (toString (s.counter + 1)) "RUNNING" .active []
  exact ⟨hadded.experiments, hadded.runs, hadded.loggedModels⟩

theorem left_seed {s : Server} {before after : List (String × Baseline)} {scope suffix : String}
    (h : s.Left before) (hbefore : ∀ x ∈ before, x ∈ after)
    (hseeded : (scope, seededBaseline s.counter suffix) ∈ after) :
    (s.seed scope suffix).Left after := by
  refine ⟨fun e he => ?_, fun r hr => ?_, fun m hm => ?_⟩
  · rcases List.mem_append.mp he with hold | hnew
    · rcases h.experiments e hold with hdeleted | ⟨x, hx, hat⟩
      · exact Or.inl hdeleted
      · exact Or.inr ⟨x, hbefore x hx, hat⟩
    · obtain rfl := List.mem_singleton.mp hnew
      exact Or.inr ⟨_, hseeded, by simp [StoredExperiment.isAt, seededBaseline]⟩
  · rcases List.mem_append.mp hr with hold | hnew
    · rcases h.runs r hold with hdeleted | ⟨x, hx, hat⟩
      · exact Or.inl hdeleted
      · exact Or.inr ⟨x, hbefore x hx, hat⟩
    · obtain rfl := List.mem_singleton.mp hnew
      exact Or.inr ⟨_, hseeded, by simp [StoredRun.isAt, seededBaseline]⟩
  · rcases List.mem_append.mp hm with hold | hnew
    · obtain ⟨x, hx, hat⟩ := h.models m hold
      exact ⟨x, hbefore x hx, hat⟩
    · obtain rfl := List.mem_singleton.mp hnew
      exact ⟨_, hseeded, by simp [StoredModel.isAt, seededBaseline]⟩

/-- **Seeding a workspace keeps the world at rest,** with one baseline more. -/
theorem World.AtRest.seed {seeded : SortedMap Baseline} (hw : w.AtRest ⟨setting, seeded⟩)
    (hnew : ∀ x ∈ seeded.entries, x.1 ≠ scope) : (w.seed draw scope).AtRest
      ⟨setting, seeded.insert scope (seededBaseline w.server.counter (draw w.draws))⟩ := by
  have hmem := SortedMap.mem_insert hnew (seededBaseline w.server.counter (draw w.draws))
  refine ⟨hw.cluster, numbered_seed hw.numbered _ _, fun x hx => ?_, fun x hx => ?_, ?_⟩
  · rcases (hmem x).mp hx with rfl | hold
    · exact named_seededBaseline _ _
    · exact hw.named x hold
  · rcases (hmem x).mp hx with rfl | hold
    · exact intact_seed hw.numbered _ _
    · exact (hw.intact x hold).grow ⟨_, rfl⟩ ⟨_, rfl⟩ ⟨_, rfl⟩
  · exact left_seed hw.left (fun x hx => (hmem x).mpr (Or.inr hx)) ((hmem _).mpr (Or.inl rfl))

theorem World.AtRest.workspace_ne {fx : Fixture} (hw : w.AtRest fx)
    (hnew : ∀ x ∈ fx.baseline.entries, x.1 ≠ scope) :
    ∀ m ∈ w.server.models, m.workspace ≠ scope := by
  intro m hm heq
  obtain ⟨x, hx, hat⟩ := hw.left.models m hm
  simp only [StoredModel.isAt, Bool.and_eq_true, beq_iff_eq] at hat
  exact hnew x hx (hat.1.symm.trans heq)

/-- What is seeded in workspaces, one after the other, is named by what is drawn. -/
def DrawnFrom (draw : Nat → String) (before after : List (String × Baseline)) : Prop :=
  ∀ x ∈ after, x ∈ before ∨ ∃ n, x.2.modelName = "baseline-model-" ++ draw n

/-- Seeding workspaces that are pairwise distinct gives each of them its baseline, whether the world
enforces anything or not. The induction is on the workspaces, with the world at rest as its
invariant. -/
theorem exec_seedScopes_atRest (draw : Nat → String) {scopes : List String}
    (hdistinct : scopes.Nodup) {seeded : SortedMap Baseline}
    (hnew : ∀ scope ∈ scopes, ∀ x ∈ seeded.entries, x.1 ≠ scope)
    (hw : w.AtRest ⟨setting, seeded⟩) :
    ∃ baseline w', (seedScopes setting scopes seeded).exec (World.answerWith draw) w =
      (.ok baseline, w') ∧
      w'.AtRest ⟨setting, baseline⟩ ∧ w'.enforce = w.enforce ∧
      DrawnFrom draw seeded.entries baseline.entries ∧
      ∀ scope, scope ∈ scopes ∨ (seeded.get? scope).isSome = true →
        (baseline.get? scope).isSome = true := by
  induction scopes generalizing seeded w with
  | nil => exact ⟨seeded, w, rfl, hw, rfl, fun x hx => Or.inl hx,
      fun scope h => h.resolve_left List.not_mem_nil⟩
  | cons scope rest ih =>
    rw [List.nodup_cons] at hdistinct
    have hfirst := hnew scope List.mem_cons_self
    have hseed := exec_seedScope draw setting (hw.workspace_ne hfirst)
    have hrests : (w.seed draw scope).AtRest _ := hw.seed hfirst
    have hrest : ∀ other ∈ rest, ∀ x ∈ (seeded.insert scope
        (seededBaseline w.server.counter (draw w.draws))).entries, x.1 ≠ other := by
      intro other hother x hx
      rcases (SortedMap.mem_insert hfirst _ x).mp hx with rfl | hold
      · exact fun heq : scope = other => hdistinct.1 (heq ▸ hother)
      · exact hnew other (List.mem_cons_of_mem _ hother) x hold
    obtain ⟨baseline, w', hrun, hw', henforce, hdrawn, hall⟩ := ih hdistinct.2 hrest hrests
    refine ⟨baseline, w', ?_, hw', henforce, fun x hx => ?_, fun other hother => hall other ?_⟩
    · unfold seedScopes
      rw [Task.exec_bind_ok hseed]
      exact hrun
    · refine (hdrawn x hx).elim (fun hbefore => ?_) Or.inr
      rcases (SortedMap.mem_insert hfirst _ x).mp hbefore with rfl | hold
      · exact Or.inr ⟨w.draws, rfl⟩
      · exact Or.inl hold
    · rw [SortedMap.get?_insert]
      split_ifs with heq
      · exact Or.inr rfl
      · refine hother.imp_left fun hmem => (List.mem_cons.mp hmem).resolve_left (Ne.symm heq)

/-- **Seeding workspaces** that are pairwise distinct gives each of them its baseline, and keeps the
world quiet. -/
theorem exec_seedScopes (draw : Nat → String) {scopes : List String} (hdistinct : scopes.Nodup)
    {seeded : SortedMap Baseline} (hnew : ∀ scope ∈ scopes, ∀ x ∈ seeded.entries, x.1 ≠ scope)
    (hw : w.Quiet ⟨setting, seeded⟩) :
    ∃ baseline w', (seedScopes setting scopes seeded).exec (World.answerWith draw) w =
      (.ok baseline, w') ∧
      w'.Quiet ⟨setting, baseline⟩ ∧
      ∀ scope, scope ∈ scopes ∨ (seeded.get? scope).isSome = true →
        (baseline.get? scope).isSome = true := by
  obtain ⟨baseline, w', hrun, hw', henforce, -, hall⟩ :=
    exec_seedScopes_atRest draw hdistinct hnew hw.toAtRest
  exact ⟨baseline, w', hrun, ⟨hw', henforce.trans hw.enforce⟩, hall⟩

end

/-! ## Removing -/

namespace Server

variable {s : Server} {scope : String}

theorem perform_deleteExperiment_snd (s : Server) (scope id : String) :
    (s.perform scope (.deleteExperiment id)).2 =
      s.changeExperiment scope id fun e => { e with stage := .deleted } := by
  rw [perform]
  split_ifs with hsome
  · rfl
  · have hnone : s.experiments.find? (·.isAt scope id) = none := by simpa [experiment?] using hsome
    have hsame := map_append_own (fun e he => by simpa using List.find?_eq_none.mp hnone e he) []
      fun e : StoredExperiment => { e with stage := .deleted }
    rw [List.append_nil, List.map_nil, List.append_nil] at hsame
    rw [changeExperiment, hsame]

theorem perform_deleteRun_snd (s : Server) (scope id : String) :
    (s.perform scope (.deleteRun id)).2 =
      s.changeRun scope id fun r => { r with stage := .deleted } := by
  rw [perform]
  split_ifs with hsome
  · rfl
  · have hnone : s.runs.find? (·.isAt scope id) = none := by simpa [run?] using hsome
    have hsame := map_append_own (fun r hr => by simpa using List.find?_eq_none.mp hnone r hr) []
      fun r : StoredRun => { r with stage := .deleted }
    rw [List.append_nil, List.map_nil, List.append_nil] at hsame
    rw [changeRun, hsame]

theorem perform_deleteRegisteredModel_snd (s : Server) (scope name : String) :
    (s.perform scope (.deleteRegisteredModel name)).2 =
      { s with models := s.models.filter (! ·.isAt scope name) } := by
  rw [perform]
  split_ifs with hany
  · rfl
  · have hall : s.models.filter (! ·.isAt scope name) = s.models := by
      refine List.filter_eq_self.mpr fun m hm => ?_
      simpa using List.any_eq_false.mp (Bool.eq_false_iff.mpr hany) m hm
    rw [hall]

/-- The server once the baseline of a workspace has been removed. -/
def clear (s : Server) (scope : String) (b : Baseline) : Server :=
  (({ s with models := s.models.filter (! ·.isAt scope b.modelName) } : Server).changeRun
    scope b.runId fun r => { r with stage := .deleted }).changeExperiment
    scope b.experimentId fun e => { e with stage := .deleted }

theorem Left.clear {b : Baseline} {rest : List (String × Baseline)}
    (h : s.Left ((scope, b) :: rest)) : (s.clear scope b).Left rest := by
  refine ⟨fun e he => ?_, fun r hr => ?_, fun m hm => ?_⟩
  · obtain ⟨old, hold, rfl⟩ := List.mem_map.mp he
    split_ifs with hat
    · exact Or.inl rfl
    · refine (h.experiments old hold).imp_right fun ⟨x, hx, hx'⟩ => ⟨x, ?_, hx'⟩
      refine (List.mem_cons.mp hx).resolve_left ?_
      rintro rfl
      exact hat hx'
  · obtain ⟨old, hold, rfl⟩ := List.mem_map.mp hr
    split_ifs with hat
    · exact Or.inl rfl
    · refine (h.runs old hold).imp_right fun ⟨x, hx, hx'⟩ => ⟨x, ?_, hx'⟩
      refine (List.mem_cons.mp hx).resolve_left ?_
      rintro rfl
      exact hat hx'
  · have hm' : m ∈ s.models.filter (! ·.isAt scope b.modelName) := hm
    obtain ⟨hold, hat⟩ := List.mem_filter.mp hm'
    obtain ⟨x, hx, hx'⟩ := h.models m hold
    refine ⟨x, (List.mem_cons.mp hx).resolve_left ?_, hx'⟩
    rintro rfl
    simp [hx'] at hat

/-- The server once baselines have been removed. -/
def clearAll (s : Server) (baselines : List (String × Baseline)) : Server :=
  baselines.foldl (fun s x => s.clear x.1 x.2) s

theorem Left.clearAll {baselines : List (String × Baseline)} (h : s.Left baselines) :
    (s.clearAll baselines).Left [] := by
  induction baselines generalizing s with
  | nil => exact h
  | cons x rest ih => exact ih h.clear

end Server

section
variable {draw : Nat → String} {w : World} {setting : Setting} {scope : String}

theorem exec_removeSeeded (kind : Cleanable) {id : String} (hid : id.isEmpty = false)
    {server : Server} {r : Except Error Unit}
    (hdelete : (kind.delete (setting.adminClient scope) id).exec (World.answerWith draw) w =
      (r.mapError .error, { w with server := server })) (word : String) :
    ∃ report, (removeSeeded (setting.adminClient scope) kind word id scope).exec
        (World.answerWith draw) w = (.ok report, { w with server := server }) := by
  have hreport : ∃ failures,
      (reportFailure ("delete baseline " ++ word ++ " " ++ id ++ " in " ++ scope)
      (kind.delete (setting.adminClient scope) id)).exec (World.answerWith draw) w =
        (.ok failures, { w with server := server }) := by
    unfold reportFailure
    cases r with
    | ok a => exact ⟨_, (Task.exec_bind_ok (Task.exec_attempt_ok hdelete) _).trans rfl⟩
    | error e => exact ⟨_, (Task.exec_bind_ok (Task.exec_attempt_error hdelete) _).trans rfl⟩
  obtain ⟨failures, hfailures⟩ := hreport
  refine ⟨⟨1, failures⟩, ?_⟩
  rw [removeSeeded, hid]
  exact (Task.exec_bind_ok hfailures _).trans rfl

/-- **Removing the baseline of a workspace.** -/
theorem exec_removeScope (draw : Nat → String) (w : World) (setting : Setting) (scope : String)
    {b : Baseline} (hb : b.Named) :
    ∃ report, (removeScope setting scope b).exec (World.answerWith draw) w =
      (.ok report, { w with server := w.server.clear scope b }) := by
  obtain ⟨model, hmodel⟩ := exec_removeSeeded .model hb.modelName_isEmpty
    (exec_admin draw w setting scope (.deleteRegisteredModel b.modelName)) "model"
  obtain ⟨run, hrun⟩ := exec_removeSeeded .run hb.runId
    (exec_admin draw _ setting scope (.deleteRun b.runId)) "run"
  obtain ⟨experiment, hexperiment⟩ := exec_removeSeeded .experiment hb.experimentId
    (exec_admin draw _ setting scope (.deleteExperiment b.experimentId)) "experiment"
  refine ⟨(model.append run).append experiment, ?_⟩
  unfold removeScope
  rw [Task.exec_bind_ok (exec_adminClientFor draw w setting scope), Task.exec_bind_ok hmodel]
  refine (Task.exec_bind_ok hrun _).trans ?_
  refine (Task.exec_bind_ok hexperiment _).trans ?_
  change (_, { w with server := _ }) = (_, { w with server := _ })
  simp only [Server.perform_deleteExperiment_snd, Server.perform_deleteRun_snd,
    Server.perform_deleteRegisteredModel_snd]
  rfl

/-- **Removing baselines** clears them, one after the other. The induction is on the workspaces. -/
theorem exec_removeScopes_clear (draw : Nat → String) (setting : Setting)
    {baselines : List (String × Baseline)} (hnamed : ∀ x ∈ baselines, x.2.Named) :
    ∃ report, (removeScopes setting baselines).exec (World.answerWith draw) w =
      (.ok report, { w with server := w.server.clearAll baselines }) := by
  induction baselines generalizing w with
  | nil => exact ⟨⟨0, []⟩, rfl⟩
  | cons x rest ih =>
    obtain ⟨scope, b⟩ := x
    obtain ⟨first, hfirst⟩ := exec_removeScope draw w setting scope (hnamed _ List.mem_cons_self)
    obtain ⟨others, hothers⟩ := ih (w := { w with server := w.server.clear scope b })
      fun y hy => hnamed y (List.mem_cons_of_mem _ hy)
    refine ⟨first.append others, ?_⟩
    unfold removeScopes
    rw [Task.exec_bind_ok hfirst]
    refine (Task.exec_bind_ok hothers _).trans ?_
    rfl

theorem exec_removeScopes (draw : Nat → String) (setting : Setting)
    {baselines : List (String × Baseline)} (hnamed : ∀ x ∈ baselines, x.2.Named)
    (hleft : w.server.Left baselines) :
    ∃ report server, (removeScopes setting baselines).exec (World.answerWith draw) w =
      (.ok report, { w with server := server }) ∧ server.Left [] := by
  obtain ⟨report, hremove⟩ := exec_removeScopes_clear draw setting hnamed
  exact ⟨report, _, hremove, hleft.clearAll⟩

end

end GrantProbe
