import Mathlib.Data.List.Find
import GrantProbe.Case.Action
import GrantProbe.Proofs.Text.Part

/-!
# Workspaces whose name reads as a denial

The error of a missing baseline resource ends in the name of the workspace, and its beginning says
*workspace*. It is classified by its text like any other, so a name can turn it into a denial.

* `readsAsDenial`: the names that do;
* `isPermission_notSeeded`: they are the only ones, whatever the resource.
-/

namespace GrantProbe

open Text (occursIn overhangs lowerChars)

/-- The name, in lower case, makes a text that speaks of a workspace a denial. -/
def readsAsDenialLowered (name : List Char) : Bool :=
  match FailureCode.ofLowered name with
  | .resourceNotFound | .resourceAlreadyExists => false
  | code => code.isPermission || occursIn "access".toList name || occursIn "denied".toList name

/-- **The name of a workspace reads as a denial:** it is classified as one by itself, or speaks of
*access* or *denied* and not of something that is missing or there already. -/
def readsAsDenial (scope : String) : Bool := readsAsDenialLowered (lowerChars scope.toList)

/-! ## A text that speaks of a workspace -/

/-- The text says *workspace* and no other word of the classification table, and no word of the
table can begin in it and end behind it. -/
def SpeaksOfWorkspace (x : List Char) : Prop :=
  ∀ p ∈ patterns, ∀ group ∈ p.anyOf, ∀ word ∈ group,
    overhangs word.toList x = false ∧ occursIn word.toList x = (word == "workspace")

instance (x : List Char) : Decidable (SpeaksOfWorkspace x) :=
  inferInstanceAs (Decidable (∀ p ∈ patterns, _))

/-- The row of the table about workspaces. -/
def workspaceRow : Pattern :=
  ⟨.workspaceAccessDenied, [["workspace", "access"], ["workspace", "denied"]]⟩

theorem patterns_eq : patterns = patterns.take 6 ++ workspaceRow :: patterns.drop 7 := rfl

theorem covers_iff (p : Pattern) (lowered : List Char) :
    p.covers lowered = true ↔
      ∃ group ∈ p.anyOf, ∀ word ∈ group, occursIn word.toList lowered = true := by
  simp only [Pattern.covers, List.any_eq_true, List.all_eq_true]

section
variable {x : List Char} (hx : SpeaksOfWorkspace x) (name : List Char)
include hx

/-- A row covers the text with a name behind it if the name has all the words but *workspace*. -/
theorem covers_append_iff {p : Pattern} (hp : p ∈ patterns) :
    p.covers (x ++ name) = true ↔
      ∃ group ∈ p.anyOf, ∀ word ∈ group, word = "workspace" ∨ occursIn word.toList name = true := by
  rw [covers_iff]
  refine exists_congr fun group => and_congr_right fun hgroup => forall₂_congr fun word hword => ?_
  obtain ⟨hover, hocc⟩ := hx p hp group hgroup word hword
  rw [Text.occursIn_append hover, hocc, Bool.or_eq_true, beq_iff_eq]

theorem covers_workspaceRow :
    workspaceRow.covers (x ++ name) =
      (occursIn "access".toList name || occursIn "denied".toList name) := by
  have hmem : workspaceRow ∈ patterns := by simp [patterns, workspaceRow]
  rw [Bool.eq_iff_iff, covers_append_iff hx name hmem, Bool.or_eq_true]
  simp [workspaceRow]

/-- Every other row covers the text as it covers the name. -/
theorem covers_of_mem {p : Pattern} (hp : p ∈ patterns.take 6 ++ patterns.drop 7) :
    p.covers (x ++ name) = p.covers name := by
  have hmem : p ∈ patterns := (List.mem_append.mp hp).elim List.mem_of_mem_take List.mem_of_mem_drop
  have hother : ∀ p ∈ patterns.take 6 ++ patterns.drop 7, ∀ group ∈ p.anyOf, ∀ word ∈ group,
      word ≠ "workspace" := by decide
  rw [Bool.eq_iff_iff, covers_append_iff hx name hmem, covers_iff]
  refine exists_congr fun group => and_congr_right fun hgroup => forall₂_congr fun word hword => ?_
  simp [hother p hp group hgroup word hword]

theorem find?_append_left :
    (patterns.take 6).find? (·.covers (x ++ name)) = (patterns.take 6).find? (·.covers name) :=
  List.find?_congr fun _ hp => covers_of_mem hx name (List.mem_append_left _ hp)

theorem find?_append_right :
    (patterns.drop 7).find? (·.covers (x ++ name)) = (patterns.drop 7).find? (·.covers name) :=
  List.find?_congr fun _ hp => covers_of_mem hx name (List.mem_append_right _ hp)

/-- **What the table says of the text** is decided by the name behind it. -/
theorem isPermission_ofLowered_append :
    (FailureCode.ofLowered (x ++ name)).isPermission = readsAsDenialLowered name := by
  unfold readsAsDenialLowered FailureCode.ofLowered
  rw [patterns_eq, List.find?_append, List.find?_append, List.find?_cons, List.find?_cons,
    find?_append_left hx, find?_append_right hx, covers_workspaceRow hx]
  cases hf : (patterns.take 6).find? (·.covers name) with
  | some p =>
    -- one of the first six rows covers the name, and the text as well
    have hcodes : ∀ p ∈ patterns.take 6, p.code.isPermission = true ∨ p.code = .resourceNotFound ∨
        p.code = .resourceAlreadyExists := by decide
    rcases hcodes p (List.mem_of_find?_eq_some hf) with hc | hc | hc
    · cases hp : p.code <;> simp_all [FailureCode.isPermission]
    · simp [hc, FailureCode.isPermission]
    · simp [hc, FailureCode.isPermission]
  | none =>
    have hcodes : ∀ p ∈ patterns.drop 7, p.code = .quotaExceeded ∨ p.code = .invalidRequest := by
      decide
    have hname : workspaceRow.covers name = true →
        (occursIn "access".toList name || occursIn "denied".toList name) = true := by
      rw [covers_iff]
      simp only [workspaceRow, List.mem_cons, List.not_mem_nil, or_false, Bool.or_eq_true]
      rintro ⟨group, rfl | rfl, hwords⟩
      · exact Or.inl (hwords "access" (by simp))
      · exact Or.inr (hwords "denied" (by simp))
    cases hocc : occursIn "access".toList name || occursIn "denied".toList name
    · -- neither row on workspaces covers anything, and the last two are no denials
      have hrow : workspaceRow.covers name = false := by
        by_contra h
        rw [Bool.not_eq_false] at h
        rw [hname h] at hocc
        exact Bool.noConfusion hocc
      cases hl : (patterns.drop 7).find? (·.covers name) with
      | none => simp_all [FailureCode.isPermission]
      | some p =>
        rcases hcodes p (List.mem_of_find?_eq_some hl) with hc | hc <;>
          simp_all [FailureCode.isPermission]
    · cases hrow : workspaceRow.covers name
      · cases hl : (patterns.drop 7).find? (·.covers name) with
        | none => simp_all [FailureCode.isPermission, workspaceRow]
        | some p =>
          rcases hcodes p (List.mem_of_find?_eq_some hl) with hc | hc <;>
            simp_all [FailureCode.isPermission, workspaceRow]
      · simp [FailureCode.isPermission, workspaceRow]

end

/-! ## The error of a missing resource -/

/-- The resources of a baseline, as the error of a missing one names them. -/
def baselineWords : List String := ["experiment", "run", "model"]

/-- What the error of a missing baseline resource says before the name of the workspace. -/
def unseededText (what : String) : String :=
  "validation error: no baseline " ++ what ++ " seeded in workspace"

theorem toList_message_notSeeded (what scope : String) :
    (Action.notSeeded what scope).message.toList =
      (unseededText what).toList ++ ' ' :: scope.toList := by
  have hparts (a b c : String) : (a ++ (b ++ what ++ (c ++ " ") ++ scope)).toList =
      (a ++ b ++ what ++ c).toList ++ ' ' :: scope.toList := by
    simp [String.toList_append]
  exact hparts "validation error: " "no baseline " " seeded in workspace"

theorem speaksOfWorkspace_unseededText {what : String} (h : what ∈ baselineWords) :
    SpeaksOfWorkspace ((unseededText what).toList ++ [' ']) := by
  have hall : ∀ what ∈ baselineWords, SpeaksOfWorkspace ((unseededText what).toList ++ [' ']) := by
    decide +kernel
  exact hall what h

theorem lowered_unseededText {what : String} (h : what ∈ baselineWords) :
    'Σ' ∉ (unseededText what).toList ∧
      (unseededText what).toList.flatMap Text.lowerChar = (unseededText what).toList := by
  have hall : ∀ what ∈ baselineWords, 'Σ' ∉ (unseededText what).toList ∧
      (unseededText what).toList.flatMap Text.lowerChar = (unseededText what).toList := by
    decide +kernel
  exact hall what h

/-- **The error of a missing baseline resource** is classified as a denial if and only if the name
of the workspace reads as one. -/
theorem isPermission_notSeeded {what : String} (h : what ∈ baselineWords) (scope : String) :
    (FailureCode.ofMessage (Action.notSeeded what scope).message).isPermission =
      readsAsDenial scope := by
  have hlower : lowerChars (Action.notSeeded what scope).message.toList =
      ((unseededText what).toList ++ [' ']) ++ lowerChars scope.toList := by
    obtain ⟨hsigma, hlowered⟩ := lowered_unseededText h
    rw [toList_message_notSeeded, Text.lowerChars_append hsigma hlowered, List.append_assoc]
    rfl
  rw [FailureCode.ofMessage, hlower,
    isPermission_ofLowered_append (speaksOfWorkspace_unseededText h)]
  rfl

end GrantProbe
