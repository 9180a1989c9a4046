import GrantProbe.Case.State
import GrantProbe.Proofs.Text.Part
import GrantProbe.World.Server

/-!
# What a server stores

The ids that a server assigns carry its counter, so what it creates next has an id of its own, and
what is done to that leaves alone what was there before.

* `runIdOf`, `loggedIdOf`: the ids of a number; none of them is blank;
* `Server.Numbered`: every id is that of a number up to the counter, with `Numbered.isAt_run`,
  `Numbered.add_run` and their like;
* `Server.Holds`: the baseline of a workspace is there; `Server.Serves`: it is, except for its model
  maybe;
* `find?_append_own` and its like: looking something up, and changing it, behind a list that does
  not have it.
-/

namespace GrantProbe

/-! ## Ids -/

/-- The id of a run. -/
def runIdOf (n : Nat) : String := "run-" ++ toString n

/-- The id of a logged model. -/
def loggedIdOf (n : Nat) : String := "m-" ++ toString n

theorem toString_nat_injective {m n : Nat} (h : toString m = toString n) : m = n := by
  have hdigits : Nat.toDigits 10 m = Nat.toDigits 10 n := by
    rw [← Nat.toList_repr, ← Nat.toList_repr]
    exact congrArg String.toList h
  rw [← Nat.ofDigitChars_ten_toDigits (n := m), hdigits, Nat.ofDigitChars_ten_toDigits]

theorem append_toString_injective {start : String} {m n : Nat}
    (h : start ++ toString m = start ++ toString n) : m = n := by
  have hlist := congrArg String.toList h
  rw [String.toList_append, String.toList_append] at hlist
  exact toString_nat_injective (String.toList_injective (List.append_cancel_left hlist))

theorem Text.isAllBlank_of_mem {s : String} {c : Char} (hc : c ∈ s.toList)
    (h : Text.isBlank c = false) :
    Text.isAllBlank s = false := by
  rw [Text.isAllBlank, List.all_eq_false]
  exact ⟨c, hc, by simp [h]⟩

theorem Text.isEmpty_of_not_isAllBlank {s : String} (h : Text.isAllBlank s = false) :
    s.isEmpty = false := by
  rw [String.isEmpty_eq_false_iff]
  rintro rfl
  exact absurd h (by decide)

theorem Text.isBlank_of_isDigit {c : Char} (h : c.isDigit = true) : Text.isBlank c = false := by
  simp only [Char.isDigit, Bool.and_eq_true, decide_eq_true_eq] at h
  have hlow : 48 ≤ c.toNat := h.1
  have hhigh : c.toNat ≤ 57 := h.2
  simp only [Text.isBlank, Bool.or_eq_false_iff, Bool.and_eq_false_iff, decide_eq_false_iff_not,
    beq_eq_false_iff_ne]
  omega

theorem isAllBlank_toString (n : Nat) : Text.isAllBlank (toString n) = false := by
  obtain ⟨c, hc⟩ := List.exists_mem_of_ne_nil _ (Nat.toDigits_ne_nil (n := n) (b := 10))
  have hmem : c ∈ (toString n).toList := by
    change c ∈ n.repr.toList
    rwa [Nat.toList_repr]
  exact Text.isAllBlank_of_mem hmem
    (Text.isBlank_of_isDigit (Nat.isDigit_of_mem_toDigits (by decide) (by decide) hc))

theorem isAllBlank_runIdOf (n : Nat) : Text.isAllBlank (runIdOf n) = false := by
  have hmem : 'r' ∈ (runIdOf n).toList := by simp [runIdOf]
  exact Text.isAllBlank_of_mem hmem (by decide)

/-! ## Numbered servers -/

namespace Server

/-- **Every id is that of a number** that the server has counted. -/
structure Numbered (s : Server) : Prop where
  experiments : ∀ e ∈ s.experiments, ∃ n ≤ s.counter, e.id = toString n
  runs : ∀ r ∈ s.runs, ∃ n ≤ s.counter, r.id = runIdOf n
  loggedModels : ∀ m ∈ s.loggedModels, ∃ n ≤ s.counter, m.1 = loggedIdOf n

namespace Numbered

variable {s : Server} (h : s.Numbered) {n : Nat} (hn : s.counter < n) (workspace : String)
include h hn

/-- A number that has not been counted is not in the id of an experiment. -/
theorem isAt_experiment : ∀ e ∈ s.experiments, e.isAt workspace (toString n) = false := by
  intro e he
  obtain ⟨m, hm, hid⟩ := h.experiments e he
  have hne : e.id ≠ toString n := fun heq => by
    have hmn : m = n := toString_nat_injective (hid.symm.trans heq)
    omega
  rw [StoredExperiment.isAt, beq_eq_false_iff_ne.mpr hne, Bool.and_false]

theorem isAt_run : ∀ r ∈ s.runs, r.isAt workspace (runIdOf n) = false := by
  intro r hr
  obtain ⟨m, hm, hid⟩ := h.runs r hr
  have hne : r.id ≠ runIdOf n := fun heq => by
    have hmn : m = n := append_toString_injective (hid.symm.trans heq)
    omega
  rw [StoredRun.isAt, beq_eq_false_iff_ne.mpr hne, Bool.and_false]

omit workspace in
theorem logged_ne : ∀ m ∈ s.loggedModels, (m.1 == loggedIdOf n) = false := by
  intro x hx
  obtain ⟨m, hm, hid⟩ := h.loggedModels x hx
  have hne : x.1 ≠ loggedIdOf n := fun heq => by
    have hmn : m = n := append_toString_injective (hid.symm.trans heq)
    omega
  exact beq_eq_false_iff_ne.mpr hne

end Numbered

theorem Numbered.add_experiment {s : Server} (h : s.Numbered) (workspace name : String)
    (stage : Stage) :
    Numbered { s with
      counter := s.counter + 1
      experiments := s.experiments ++ [⟨toString (s.counter + 1), workspace, name, stage⟩] } := by
  have hlater {P : Nat → Prop} : (∃ n ≤ s.counter, P n) → ∃ n ≤ s.counter + 1, P n :=
    fun ⟨n, hn, hP⟩ => ⟨n, Nat.le_succ_of_le hn, hP⟩
  refine ⟨fun e he => ?_, fun r hr => hlater (h.runs r hr), fun m hm =>
    hlater (h.loggedModels m hm)⟩
  rcases List.mem_append.mp he with hold | hnew
  · exact hlater (h.experiments e hold)
  · obtain rfl := List.mem_singleton.mp hnew
    exact ⟨s.counter + 1, Nat.le_refl _, rfl⟩

theorem Numbered.add_run {s : Server} (h : s.Numbered)
    (workspace experimentId status : String) (stage : Stage) (artifacts : List Artifact) :
    Numbered { s with
      counter := s.counter + 1
      runs := s.runs ++
        [⟨runIdOf (s.counter + 1), workspace, experimentId, status, stage, artifacts⟩] } := by
  have hlater {P : Nat → Prop} : (∃ n ≤ s.counter, P n) → ∃ n ≤ s.counter + 1, P n :=
    fun ⟨n, hn, hP⟩ => ⟨n, Nat.le_succ_of_le hn, hP⟩
  refine ⟨fun e he => hlater (h.experiments e he), fun r hr => ?_, fun m hm =>
    hlater (h.loggedModels m hm)⟩
  rcases List.mem_append.mp hr with hold | hnew
  · exact hlater (h.runs r hold)
  · obtain rfl := List.mem_singleton.mp hnew
    exact ⟨s.counter + 1, Nat.le_refl _, rfl⟩

theorem loggedModelId_append (id : String) : loggedModelId (modelScheme ++ id) = id := by
  have hstart : modelScheme.toList.isPrefixOf (modelScheme ++ id).toList = true :=
    Text.startsWith_append modelScheme id
  rw [loggedModelId, Text.stripStart?, Text.dropStart?, if_pos hstart, String.toList_append]
  simp

end Server

/-! ## Baselines -/

/-- **The server holds a baseline** in a workspace. -/
structure Server.Holds (s : Server) (scope : String) (b : Baseline) : Prop where
  experiment : (s.experiment? scope b.experimentId).isSome = true
  run : (s.run? scope b.runId).isSome = true
  model : s.models.any (·.isAt scope b.modelName) = true
  runId : b.runId.isEmpty = false

/-- **The server serves a baseline** in a workspace: its experiment and its run are there, whatever
their stage, and its model is there or is not. -/
structure Server.Serves (s : Server) (stocked : Bool) (scope : String) (b : Baseline) : Prop where
  experiment : (s.experiment? scope b.experimentId).isSome = true
  run : (s.run? scope b.runId).isSome = true
  model : s.models.any (·.isAt scope b.modelName) = stocked

/-! ## What is added to a list -/

section
variable {α : Type} {background : List α} {p : α → Bool} (h : ∀ a ∈ background, p a = false)
  (own : List α)
include h

theorem find?_append_own : (background ++ own).find? p = own.find? p := by
  have hnone : background.find? p = none := List.find?_eq_none.mpr fun a ha => by simp [h a ha]
  rw [List.find?_append, hnone, Option.none_or]

theorem any_append_own : (background ++ own).any p = own.any p := by
  have hnone : background.any p = false := List.any_eq_false.mpr fun a ha => by simp [h a ha]
  rw [List.any_append, hnone, Bool.false_or]

theorem map_append_own (f : α → α) :
    (background ++ own).map (fun a => if p a then f a else a) =
      background ++ own.map fun a => if p a then f a else a := by
  have hsame : background.map (fun a => if p a then f a else a) = background :=
    (List.map_congr_left fun a ha => if_neg (by simp [h a ha])).trans (List.map_id background)
  rw [List.map_append, hsame]

theorem filter_append_own :
    (background ++ own).filter (!p ·) = background ++ own.filter (!p ·) := by
  have hsame : background.filter (!p ·) = background :=
    List.filter_eq_self.mpr fun a ha => by simp [h a ha]
  rw [List.filter_append, hsame]

end

end GrantProbe
