import Mathlib.Data.List.TakeWhile
import GrantProbe.Text.Blank
import GrantProbe.Text.Search

/-!
# Pieces of a text

A list in one text is taken apart at its separators, and of each piece the blanks around it are left
out.

* `splitAtEach_eq_splitOn`: the pieces, as the library splits a list; `splitAtEach_append_cons`,
  `splitAtEach_append`: the pieces of a text with a separator in it;
* `Trims`: what stands between the blanks of a piece, as a relation; `trims_iff`: trimming finds it.
-/

namespace GrantProbe.Text

/-! ## Pieces between separators -/

section
variable {sep : Char}

theorem splitAtEach_eq_splitOn (s : List Char) : splitAtEach sep s = s.splitOn sep := by
  induction s with
  | nil => rfl
  | cons c rest ih =>
    obtain ⟨piece, pieces, hrest⟩ := List.exists_cons_of_ne_nil (splitAtEach_ne_nil sep rest)
    rw [List.splitOn_cons_eq_if_modifyHead, ← ih, splitAtEach, hrest]
    simp [List.modifyHead]

theorem splitAtEach_of_not_mem {s : List Char} (hs : sep ∉ s) : splitAtEach sep s = [s] := by
  rw [splitAtEach_eq_splitOn, List.splitOn_eq_singleton hs]

theorem splitAtEach_append (sep : Char) (x y : List Char) :
    splitAtEach sep (x ++ sep :: y) = splitAtEach sep x ++ splitAtEach sep y := by
  simp only [splitAtEach_eq_splitOn, List.splitOn_append_cons_self]

theorem splitAtEach_append_cons {x : List Char} (hx : sep ∉ x) (y : List Char) :
    splitAtEach sep (x ++ sep :: y) = x :: splitAtEach sep y := by
  rw [splitAtEach_append, splitAtEach_of_not_mem hx, List.singleton_append]

theorem not_mem_of_mem_splitAtEach {s part : List Char} (hpart : part ∈ splitAtEach sep s) :
    sep ∉ part := by
  induction s generalizing part with
  | nil =>
    rw [List.mem_singleton.mp hpart]
    exact List.not_mem_nil
  | cons c rest ih =>
    rw [splitAtEach] at hpart
    obtain ⟨first, parts, hrest⟩ := List.exists_cons_of_ne_nil (splitAtEach_ne_nil sep rest)
    simp only [hrest] at hpart ih
    split at hpart
    · rcases List.mem_cons.mp hpart with rfl | hpart
      · exact List.not_mem_nil
      · exact ih hpart
    · next hc =>
      rcases List.mem_cons.mp hpart with rfl | hpart
      · exact List.not_mem_cons_of_ne_of_not_mem (Ne.symm hc) (ih List.mem_cons_self)
      · exact ih (List.mem_cons_of_mem _ hpart)

end

/-! ## Blanks around a piece -/

/-- **No blanks around it.** A text that neither begins nor ends with a blank. -/
structure IsTrimmed (s : List Char) : Prop where
  head : ∀ c ∈ s.head?, isBlank c = false
  last : ∀ c ∈ s.getLast?, isBlank c = false

/-- **What stands between the blanks** at the beginning and at the end of a piece. -/
inductive Trims : List Char → List Char → Prop
  | between {before core after : List Char} (hbefore : ∀ c ∈ before, isBlank c = true)
    (hcore : IsTrimmed core) (hafter : ∀ c ∈ after, isBlank c = true) :
    Trims (before ++ core ++ after) core

theorem dropWhile_append_of_head {before core : List Char}
    (hbefore : ∀ c ∈ before, isBlank c = true) (hcore : ∀ c ∈ core.head?, isBlank c = false) :
    (before ++ core).dropWhile isBlank = core := by
  rw [List.dropWhile_append_of_pos hbefore]
  cases core with
  | nil => rfl
  | cons c rest => exact List.dropWhile_cons_of_neg (by simp [hcore c rfl])

theorem exists_of_dropWhile (s : List Char) :
    ∃ before, s = before ++ s.dropWhile isBlank ∧ (∀ c ∈ before, isBlank c = true) ∧
      ∀ c ∈ (s.dropWhile isBlank).head?, isBlank c = false := by
  refine ⟨s.takeWhile isBlank, List.takeWhile_append_dropWhile.symm,
    fun c hc => List.mem_takeWhile_imp hc, fun c hc => ?_⟩
  have hnot := List.head?_dropWhile_not isBlank s
  rw [Option.mem_def.mp hc] at hnot
  exact hnot

/-- **Trimming finds what stands between the blanks.** -/
theorem trims_iff {piece core : List Char} : Trims piece core ↔ stripBoth isBlank piece = core := by
  constructor
  · rintro ⟨hbefore, hcore, hafter⟩
    rename_i before after
    have hend : (core ++ after).reverse.dropWhile isBlank = core.reverse := by
      rw [List.reverse_append]
      refine dropWhile_append_of_head (fun c hc => hafter c (List.mem_reverse.mp hc)) ?_
      rw [List.head?_reverse]
      exact hcore.last
    rw [stripBoth, List.append_assoc, List.dropWhile_append_of_pos hbefore]
    cases core with
    | nil =>
      rw [List.nil_append, List.dropWhile_eq_nil_iff.mpr hafter]
      rfl
    | cons c rest =>
      have hstart : (c :: rest ++ after).dropWhile isBlank = c :: rest ++ after :=
        List.dropWhile_cons_of_neg (by simp [hcore.head c rfl])
      rw [hstart, hend, List.reverse_reverse]
  · rintro rfl
    obtain ⟨before, hpiece, hbefore, hhead⟩ := exists_of_dropWhile piece
    obtain ⟨after, hrest, hafter, hlast⟩ := exists_of_dropWhile (piece.dropWhile isBlank).reverse
    have hcore : piece.dropWhile isBlank = stripBoth isBlank piece ++ after.reverse := by
      rw [stripBoth, ← List.reverse_append, ← hrest, List.reverse_reverse]
    have htrimmed : IsTrimmed (stripBoth isBlank piece) := by
      refine ⟨fun c hc => hhead c ?_, fun c hc => hlast c ?_⟩
      · rw [hcore, List.head?_append, Option.mem_def.mp hc]
        rfl
      · rwa [stripBoth, List.getLast?_reverse] at hc
    have hbetween := Trims.between hbefore htrimmed fun c hc => hafter c (List.mem_reverse.mp hc)
    rwa [List.append_assoc, ← hcore, ← hpiece] at hbetween

theorem Trims.isTrimmed {piece core : List Char} (h : Trims piece core) : IsTrimmed core := by
  obtain ⟨-, hcore, -⟩ := h
  exact hcore

theorem Trims.subset {piece core : List Char} (h : Trims piece core) : core ⊆ piece := by
  obtain ⟨-, -, -⟩ := h
  intro c hc
  exact List.mem_append_left _ (List.mem_append_right _ hc)

theorem trims_trim (s : String) : Trims s.toList (trim s).toList := by
  rw [trims_iff, trim, String.toList_ofList]

theorem trim_of_isTrimmed {s : String} (h : IsTrimmed s.toList) : trim s = s := by
  have hself : Trims ([] ++ s.toList ++ []) s.toList :=
    .between (fun c hc => absurd hc List.not_mem_nil) h fun c hc => absurd hc List.not_mem_nil
  rw [List.nil_append, List.append_nil] at hself
  rw [trim, trims_iff.mp hself, String.ofList_toList]

end GrantProbe.Text
