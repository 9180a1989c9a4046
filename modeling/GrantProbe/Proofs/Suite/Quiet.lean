import GrantProbe.Proofs.Case.Venue

/-!
# Quiet worlds

Between two cases of a suite the world is at rest: the baseline is as it was seeded, nothing else is
alive, and nobody has been granted anything. Where the tracking server enforces what is granted, this
is the invariant of a suite.

* `Server.Intact`: a baseline is there, and active; `Server.Left`: nothing else is alive;
* `World.AtRest`; `World.Quiet`: the invariant;
* `intact_server`, `left_server`, `numbered_server`: what a case leaves behind does not break it.
-/

namespace GrantProbe

/-- The ids of a baseline are set, and its model has the name of one that was seeded. -/
structure Baseline.Named (b : Baseline) : Prop where
  experimentId : b.experimentId.isEmpty = false
  runId : b.runId.isEmpty = false
  modelName : ∃ x, b.modelName = "baseline-model-" ++ x

theorem Baseline.Named.modelName_isEmpty {b : Baseline} (h : b.Named) :
    b.modelName.isEmpty = false := by
  obtain ⟨x, hx⟩ := h.modelName
  rw [hx, String.isEmpty_eq_false_iff]
  simp

namespace Server

/-- **The baseline of a workspace is intact:** its experiment and its run are active, and its model
is there. -/
structure Intact (s : Server) (scope : String) (b : Baseline) : Prop where
  experiment : (s.experiment? scope b.experimentId).map StoredExperiment.stage = some .active
  run : (s.run? scope b.runId).map StoredRun.stage = some .active
  model : s.models.any (·.isAt scope b.modelName) = true

/-- **Nothing is left** but the baselines of these workspaces. -/
structure Left (s : Server) (baselines : List (String × Baseline)) : Prop where
  experiments : ∀ e ∈ s.experiments,
    e.stage = .deleted ∨ ∃ x ∈ baselines, e.isAt x.1 x.2.experimentId = true
  runs : ∀ r ∈ s.runs, r.stage = .deleted ∨ ∃ x ∈ baselines, r.isAt x.1 x.2.runId = true
  models : ∀ m ∈ s.models, ∃ x ∈ baselines, m.isAt x.1 x.2.modelName = true

theorem Intact.serves {s : Server} {scope : String} {b : Baseline} (h : s.Intact scope b) :
    s.Serves true scope b where
  experiment := by
    obtain ⟨e, he, -⟩ := Option.map_eq_some_iff.mp h.experiment
    rw [he, Option.isSome_some]
  run := by
    obtain ⟨r, hr, -⟩ := Option.map_eq_some_iff.mp h.run
    rw [hr, Option.isSome_some]
  model := h.model

theorem Intact.grow {s s' : Server} {scope : String} {b : Baseline} (h : s.Intact scope b)
    (hexperiments : ∃ es, s'.experiments = s.experiments ++ es)
    (hruns : ∃ rs, s'.runs = s.runs ++ rs) (hmodels : ∃ ms, s'.models = s.models ++ ms) :
    s'.Intact scope b := by
  obtain ⟨e, he, hstage⟩ := Option.map_eq_some_iff.mp h.experiment
  obtain ⟨r, hr, hactive⟩ := Option.map_eq_some_iff.mp h.run
  obtain ⟨es, hes⟩ := hexperiments
  obtain ⟨rs, hrs⟩ := hruns
  obtain ⟨ms, hms⟩ := hmodels
  unfold experiment? at he
  unfold run? at hr
  refine ⟨?_, ?_, ?_⟩
  · rw [experiment?, hes, List.find?_append, he, Option.some_or, Option.map_some, hstage]
  · rw [run?, hrs, List.find?_append, hr, Option.some_or, Option.map_some, hactive]
  · rw [hms, List.any_append, h.model, Bool.true_or]

end Server

/-- **The world is at rest:** what is there is the baseline, and nobody has been granted anything. -/
structure World.AtRest (fx : Fixture) (w : World) : Prop where
  cluster : w.cluster = .empty trackingGroup 0
  numbered : w.server.Numbered
  named : ∀ x ∈ fx.baseline.entries, x.2.Named
  intact : ∀ x ∈ fx.baseline.entries, w.server.Intact x.1 x.2
  left : w.server.Left fx.baseline.entries

/-- **The world is quiet** between two cases: it is at rest, and enforces what is granted. -/
structure World.Quiet (fx : Fixture) (w : World) : Prop extends w.AtRest fx where
  enforce : w.enforce = true

theorem lacks_of_empty {c : Cluster} (h : c = .empty trackingGroup 0) (name scope : String) :
    c.Lacks name scope := by
  rw [h]
  exact ⟨nofun, nofun, nofun, nofun⟩

theorem lag_of_empty {c : Cluster} (h : c = .empty trackingGroup 0) : c.lag = 0 := by
  rw [h]
  rfl

namespace World.AtRest

variable {fx : Fixture} {w : World} (h : w.AtRest fx)
include h

theorem lacks (name scope : String) : w.cluster.Lacks name scope :=
  lacks_of_empty h.cluster name scope

theorem models : ∀ m ∈ w.server.models, ∃ x, m.name = "baseline-model-" ++ x := by
  intro m hm
  obtain ⟨x, hx, hat⟩ := h.left.models m hm
  obtain ⟨y, hy⟩ := (h.named x hx).modelName
  simp only [StoredModel.isAt, Bool.and_eq_true, beq_iff_eq] at hat
  exact ⟨y, hat.2.trans hy⟩

end World.AtRest

/-! ## What a case leaves behind -/

namespace Venue

variable {vn : Venue} {k : Sketch} {v : Values}

theorem intact_server {scope : String} {b : Baseline} (hb : vn.world.server.Intact scope b)
    (k : Sketch) (v : Values) : (vn.server k v).Intact scope b := hb.grow ⟨_, rfl⟩ ⟨_, rfl⟩ ⟨_, rfl⟩

theorem mem_own_cleared {α : Type} {t : Trail} {live gone : List α} {a : α}
    (ha : a ∈ t.cleared.own live gone) : a ∈ gone := by
  cases t with
  | untouched => cases ha
  | sighted => cases ha
  | made => exact ha
  | removed => exact ha

theorem left_server {baselines : List (String × Baseline)} (hleft : vn.world.server.Left baselines)
    (k : Sketch) (v : Values) : (vn.server k.cleared v).Left baselines := by
  refine ⟨fun e he => ?_, fun r hr => ?_, fun m hm => ?_⟩
  · rcases List.mem_append.mp he with hold | hown
    · exact hleft.experiments e hold
    · obtain rfl := List.mem_singleton.mp (mem_own_cleared hown)
      exact Or.inl rfl
  · rcases List.mem_append.mp hr with hold | hown
    · exact hleft.runs r hold
    · obtain rfl := List.mem_singleton.mp (mem_own_cleared hown)
      exact Or.inl rfl
  · rcases List.mem_append.mp hm with hold | hown
    · exact hleft.models m hold
    · exact absurd (mem_own_cleared hown) List.not_mem_nil

theorem mem_own {α : Type} {t : Trail} {a b c : α} (ha : a ∈ t.own [b] [c]) :
    t.isOwn = true ∧ (a = b ∨ a = c) := by
  cases t with
  | untouched => cases ha
  | sighted => cases ha
  | made => exact ⟨rfl, Or.inl (List.mem_singleton.mp ha)⟩
  | removed => exact ⟨rfl, Or.inr (List.mem_singleton.mp ha)⟩

theorem numbered_server (hnumbered : vn.world.server.Numbered) (hv : vn.Fits k v) :
    (vn.server k v).Numbered := by
  refine ⟨fun e he => ?_, fun r hr => ?_, fun m hm => ?_⟩
  · rcases List.mem_append.mp he with hold | hown
    · obtain ⟨n, hn, hid⟩ := hnumbered.experiments e hold
      exact ⟨n, Nat.le_trans hn hv.counter, hid⟩
    · obtain ⟨hmade, rfl | rfl⟩ := mem_own hown <;>
        exact ⟨v.experiment, hv.experiment_le hmade, rfl⟩
  · rcases List.mem_append.mp hr with hold | hown
    · obtain ⟨n, hn, hid⟩ := hnumbered.runs r hold
      exact ⟨n, Nat.le_trans hn hv.counter, hid⟩
    · obtain ⟨hmade, rfl | rfl⟩ := mem_own hown <;> exact ⟨v.run, hv.run_le hmade, rfl⟩
  · rcases List.mem_append.mp hm with hold | hown
    · obtain ⟨n, hn, hid⟩ := hnumbered.loggedModels m hold
      exact ⟨n, Nat.le_trans hn hv.counter, hid⟩
    · cases hlogged : k.logged with
      | false => simp [hlogged] at hown
      | true =>
        rw [hlogged, if_pos rfl] at hown
        obtain rfl := List.mem_singleton.mp hown
        exact ⟨v.logged, hv.logged_le hlogged, rfl⟩

end Venue

end GrantProbe
