import GrantProbe.Proofs.World.Exact

/-!
# What a server remembers

No call takes an experiment or a run off the server: deleting one changes its stage. So what was
created in the course of a run is there when the run ends, and a statement about what is there is
about all that was ever created.

* `Server.Remembers`: a later server still has every id, in the order of creation;
* `remembers_perform`, `remembers_answerWith`: one call and one request; `remembers_run`: a run;
* `CreatesExperiment.stored`, `CreatesRun.stored`: what a run created is there at its end.
-/

namespace GrantProbe

open Program (Handler)

namespace Server

/-- The ids of the experiments, in the order of their creation. -/
def experimentIds (s : Server) : List String := s.experiments.map StoredExperiment.id

/-- The ids of the runs, in the order of their creation. -/
def runIds (s : Server) : List String := s.runs.map StoredRun.id

/-- **The later server remembers** the experiments and the runs of the earlier one. -/
structure Remembers (s s' : Server) : Prop where
  experiments : s.experimentIds <+: s'.experimentIds
  runs : s.runIds <+: s'.runIds

theorem Remembers.refl (s : Server) : s.Remembers s := ⟨List.prefix_rfl, List.prefix_rfl⟩

theorem Remembers.trans {a b c : Server} (hab : a.Remembers b) (hbc : b.Remembers c) :
    a.Remembers c :=
  ⟨hab.experiments.trans hbc.experiments, hab.runs.trans hbc.runs⟩

variable (s : Server) (workspace id : String)

theorem remembers_changeExperiment {f : StoredExperiment → StoredExperiment}
    (hf : ∀ e, (f e).id = e.id) :
    s.Remembers (s.changeExperiment workspace id f) := by
  have hids : (s.changeExperiment workspace id f).experimentIds = s.experimentIds := by
    unfold experimentIds changeExperiment
    rw [List.map_map]
    refine List.map_congr_left fun e _ => ?_
    rw [Function.comp_apply]
    split
    · exact hf e
    · rfl
  exact ⟨hids ▸ List.prefix_rfl, List.prefix_rfl⟩

theorem remembers_changeRun {f : StoredRun → StoredRun} (hf : ∀ r, (f r).id = r.id) :
    s.Remembers (s.changeRun workspace id f) := by
  have hids : (s.changeRun workspace id f).runIds = s.runIds := by
    unfold runIds changeRun
    rw [List.map_map]
    refine List.map_congr_left fun r _ => ?_
    rw [Function.comp_apply]
    split
    · exact hf r
    · rfl
  exact ⟨List.prefix_rfl, hids ▸ List.prefix_rfl⟩

/-- **No call makes the server forget.** -/
theorem remembers_perform (call : TrackingCall) : s.Remembers (s.perform workspace call).2 := by
  cases call with
  | createExperiment name =>
    refine ⟨?_, List.prefix_rfl⟩
    simp only [perform, experimentIds, List.map_append]
    exact List.prefix_append _ _
  | deleteExperiment id =>
    simp only [perform]
    split
    · exact s.remembers_changeExperiment workspace id fun _ => rfl
    · exact .refl s
  | createRun experimentId =>
    simp only [perform]
    split
    · refine ⟨List.prefix_rfl, ?_⟩
      simp only [runIds, List.map_append]
      exact List.prefix_append _ _
    · exact .refl s
  | endRun id | deleteRun id | logArtifact id artifact =>
    simp only [perform]
    split
    · exact s.remembers_changeRun workspace id fun _ => rfl
    · exact .refl s
  | createRegisteredModel name => exact ⟨List.prefix_rfl, List.prefix_rfl⟩
  | logModel id model | deleteRegisteredModel name =>
    simp only [perform]
    split
    · exact ⟨List.prefix_rfl, List.prefix_rfl⟩
    · exact .refl s
  | getExperiment id | getRun id | listArtifacts id | loadModel uri | getRegisteredModel name =>
    simp only [perform]
    split <;> exact .refl s
  | downloadArtifact id path =>
    simp only [perform]
    split
    · split <;> exact .refl s
    · exact .refl s

theorem createExperiment_stored {name : String}
    (h : (s.perform workspace (.createExperiment name)).1 = .ok id) :
    id ∈ (s.perform workspace (.createExperiment name)).2.experimentIds := by
  obtain rfl : toString (s.counter + 1) = id := Except.ok.inj h
  simp [perform, experimentIds]

theorem createRun_stored {experimentId : String}
    (h : (s.perform workspace (.createRun experimentId)).1 = .ok id) :
    id ∈ (s.perform workspace (.createRun experimentId)).2.runIds := by
  simp only [perform] at h ⊢
  split at h
  · obtain rfl : "run-" ++ toString (s.counter + 1) = id := Except.ok.inj h
    simp [*, runIds]
  · cases h

end Server

variable {draw : Nat → String}

theorem World.tracking_eq_ok {w : World} {client : Client} {call : TrackingCall}
    {answer : call.Answer} (h : (w.tracking client call).1 = .ok answer) :
    (w.server.perform client.workspace call).1 = .ok answer ∧
      (w.tracking client call).2.server = (w.server.perform client.workspace call).2 := by
  unfold World.tracking at h ⊢
  split at h
  · rw [if_pos ‹_›]
    rcases hperform : w.server.perform client.workspace call with ⟨e | a, server⟩ <;>
      rw [hperform] at h
    · cases h
    · obtain rfl : a = answer := Except.ok.inj h
      exact ⟨rfl, rfl⟩
  · cases h

/-- **No request makes the server forget.** -/
theorem remembers_answerWith (request : Ask) (w : World) :
    w.server.Remembers (World.answerWith draw request w).2.server := by
  cases request with
  | tracking client call =>
    rw [World.answerWith_tracking]
    unfold World.tracking
    split
    · exact w.server.remembers_perform client.workspace call
    · exact .refl w.server
  | access call => cases call <;> exact .refl w.server
  | sleep d =>
    -- The world is taken apart, or its time would be compared before its server.
    cases w with
    | mk cluster server enforce now draws => exact .refl server
  | identity call | bind client | suffix | clock => exact .refl w.server

/-- **No run makes the server forget.** -/
theorem remembers_run {α : Type} (p : Program probe α) (w : World) :
    w.server.Remembers (p.run (World.answerWith draw) w).2.server := by
  induction p generalizing w with
  | done a => exact .refl w.server
  | ask r next ih => exact (remembers_answerWith r w).trans (ih _ _)

namespace Program

variable {α : Type}

/-- **A run creates an experiment** if a call of its dialogue was answered by this id. -/
def CreatesExperiment (p : Program probe α) (h : Handler probe World) (w : World)
    (id : String) : Prop :=
  ∃ client name,
    (⟨.tracking client (.createExperiment name), .ok id⟩ : Exchange probe) ∈ p.dialogue h w

/-- **A run creates a run** at the server if a call of its dialogue was answered by this id. -/
def CreatesRun (p : Program probe α) (h : Handler probe World) (w : World) (id : String) : Prop :=
  ∃ client experimentId,
    (⟨.tracking client (.createRun experimentId), .ok id⟩ : Exchange probe) ∈ p.dialogue h w

theorem stored_of_mem_dialogue {client : Client} {call : TrackingCall} {answer : call.Answer}
    {ids : Server → List String} {id : String}
    (hkeep : ∀ s s' : Server, s.Remembers s' → id ∈ ids s → id ∈ ids s')
    (hcall : ∀ s : Server, (s.perform client.workspace call).1 = .ok answer →
      id ∈ ids (s.perform client.workspace call).2) {p : Program probe α} {w : World}
    (h : (⟨.tracking client call, .ok answer⟩ : Exchange probe) ∈
      p.dialogue (World.answerWith draw) w) :
    id ∈ ids (p.run (World.answerWith draw) w).2.server := by
  induction p generalizing w with
  | done a => exact absurd h List.not_mem_nil
  | ask r next ih =>
    rcases List.mem_cons.mp h with heq | htail
    · obtain ⟨rfl, hanswer⟩ := Exchange.mk.inj heq
      obtain ⟨hanswered, hserver⟩ := World.tracking_eq_ok (eq_of_heq hanswer).symm
      rw [run_ask]
      refine hkeep _ _ (remembers_run _ _) ?_
      rw [World.answerWith_tracking, hserver]
      exact hcall w.server hanswered
    · exact ih _ htail

variable {p : Program probe α} {w : World} {id : String}

/-- **An experiment that was created** is there at the end of the run. -/
theorem CreatesExperiment.stored (h : p.CreatesExperiment (World.answerWith draw) w id) :
    id ∈ (p.run (World.answerWith draw) w).2.server.experimentIds := by
  obtain ⟨client, name, hmem⟩ := h
  exact stored_of_mem_dialogue (fun _ _ hs hid => hs.experiments.subset hid)
    (fun s => s.createExperiment_stored client.workspace id) hmem

/-- **A run that was created** is there at the end of the run. -/
theorem CreatesRun.stored (h : p.CreatesRun (World.answerWith draw) w id) :
    id ∈ (p.run (World.answerWith draw) w).2.server.runIds := by
  obtain ⟨client, experimentId, hmem⟩ := h
  exact stored_of_mem_dialogue (fun _ _ hs hid => hs.runs.subset hid)
    (fun s => s.createRun_stored client.workspace id) hmem

end Program

end GrantProbe
