import Mathlib.Data.List.Infix
import GrantProbe.Text.Case
import GrantProbe.Text.Search

/-!
# Texts with known parts

The text of an error is a fixed beginning with a name behind it. Looking for a word in it, and
putting it in lower case, come down to the name when no word and no letter of the beginning reaches
over into it.

* `occursIn_append`: a word that does not overhang is looked for on both sides apart, and so is
  (`occursIn_append_cons`) one without the character in between;
* `stripStart?_eq_some_iff`: what follows a known beginning;
* `infix_lowerChars`: a part of a text, lowered, is a part of the lowered text;
* `lowerChars_append`: a beginning in lower case that ends in a space stays, and the name behind it
  is lowered as if it stood alone;
* `lowerChars_append_colon`, `occursIn_append_colon`: two texts with a colon and a space between
  them are lowered, and searched, apart.
-/

namespace GrantProbe.Text

/-! ## Words -/

theorem occursIn_iff_isInfix (needle hay : List Char) :
    occursIn needle hay = true ↔ needle <:+: hay := by
  induction hay with
  | nil => simp [occursIn]
  | cons c rest ih =>
    rw [occursIn, Bool.or_eq_true, ih, List.isPrefixOf_iff_prefix, List.infix_cons_iff]

/-- Some end of the text is a beginning of the word. -/
def overhangs (needle : List Char) : List Char → Bool
  | [] => false
  | c :: rest => (c :: rest).isPrefixOf needle || overhangs needle rest

theorem overhangs_of_suffix {needle x t : List Char} (ht : t ≠ []) (hx : t <:+ x)
    (hn : t <+: needle) :
    overhangs needle x = true := by
  induction x with
  | nil => exact absurd (List.suffix_nil.mp hx) ht
  | cons c rest ih =>
    rw [overhangs, Bool.or_eq_true, List.isPrefixOf_iff_prefix]
    rcases List.suffix_cons_iff.mp hx with rfl | hrest
    · exact Or.inl hn
    · exact Or.inr (ih hrest)

/-- **A word that does not overhang** the first text is in one of the two. -/
theorem occursIn_append {needle x : List Char} (h : overhangs needle x = false) (y : List Char) :
    occursIn needle (x ++ y) = (occursIn needle x || occursIn needle y) := by
  rw [Bool.eq_iff_iff, Bool.or_eq_true]
  simp only [occursIn_iff_isInfix]
  rw [List.infix_append_iff_ne_nil]
  constructor
  · rintro (hx | hy | ⟨l₁, l₂, hne, -, rfl, hl₁, -⟩)
    · exact Or.inl hx
    · exact Or.inr hy
    · rw [overhangs_of_suffix hne hl₁ (List.prefix_append l₁ l₂)] at h
      exact Bool.noConfusion h
  · rintro (hx | hy)
    · exact Or.inl hx
    · exact Or.inr (Or.inl hy)

/-- **A word without the character between two texts** is in one of the two. -/
theorem occursIn_append_cons {needle x y : List Char} {c : Char} (hc : c ∉ needle) :
    occursIn needle (x ++ c :: y) = (occursIn needle x || occursIn needle y) := by
  rw [Bool.eq_iff_iff, Bool.or_eq_true]
  simp only [occursIn_iff_isInfix]
  rw [List.infix_append_iff_ne_nil]
  constructor
  · rintro (hx | hy | ⟨l₁, l₂, -, hne, rfl, -, hl₂⟩)
    · exact Or.inl hx
    · rcases List.infix_cons_iff.mp hy with hprefix | hrest
      · rcases List.prefix_cons_iff.mp hprefix with rfl | ⟨t, rfl, -⟩
        · exact Or.inl (List.nil_infix)
        · exact absurd List.mem_cons_self hc
      · exact Or.inr hrest
    · rcases List.prefix_cons_iff.mp hl₂ with rfl | ⟨t, rfl, -⟩
      · exact absurd rfl hne
      · exact absurd (List.mem_append_right l₁ List.mem_cons_self) hc
  · rintro (hx | hy)
    · exact Or.inl hx
    · exact Or.inr (Or.inl (List.infix_cons hy))

/-- **A word of one of two texts** with a colon and a space between them; it has no colon and does
not begin with a space. -/
theorem occursIn_append_colon {needle : List Char} (hcolon : ':' ∉ needle)
    (hspace : overhangs needle [' '] = false) (hne : needle ≠ []) (x y : List Char) :
    occursIn needle (x ++ ':' :: ' ' :: y) = (occursIn needle x || occursIn needle y) := by
  have hblank : occursIn needle [' '] = false := by
    cases needle with
    | nil => exact absurd rfl hne
    | cons c rest =>
      have hc : c ≠ ' ' := by
        rintro rfl
        simp [overhangs] at hspace
      simp [occursIn, List.isPrefixOf, hc]
  have hsplit : occursIn needle ([' '] ++ y) = (occursIn needle [' '] || occursIn needle y) :=
    occursIn_append hspace y
  rw [hblank, Bool.false_or, List.singleton_append] at hsplit
  rw [occursIn_append_cons hcolon, hsplit]

theorem startsWith_append (start s : String) : startsWith start (start ++ s) = true := by
  rw [startsWith, List.isPrefixOf_iff_prefix, String.toList_append]
  exact List.prefix_append _ _

theorem stripStart?_eq_some_iff {start s rest : String} :
    stripStart? start s = some rest ↔ s = start ++ rest := by
  unfold stripStart? dropStart?
  rw [Option.map_eq_some_iff]
  constructor
  · rintro ⟨cs, hcs, rfl⟩
    split at hcs
    · next hprefix =>
      obtain ⟨tail, htail⟩ := List.isPrefixOf_iff_prefix.mp hprefix
      refine String.toList_injective ?_
      rw [String.toList_append, String.toList_ofList, ← Option.some.inj hcs, ← htail, List.drop_left]
    · cases hcs
  · rintro rfl
    refine ⟨rest.toList, ?_, String.ofList_toList⟩
    rw [String.toList_append, if_pos (List.isPrefixOf_iff_prefix.mpr (List.prefix_append _ _)),
      List.drop_left]

/-! ## Lower case -/

/-- Where there is no capital sigma, every character is lowered on its own. -/
theorem lowerFrom_append {x : List Char} (hx : 'Σ' ∉ x) (before y : List Char) :
    lowerFrom before (x ++ y) = x.flatMap lowerChar ++ lowerFrom (x.reverse ++ before) y := by
  induction x generalizing before with
  | nil => rfl
  | cons c rest ih =>
    rw [List.mem_cons, not_or] at hx
    rw [List.cons_append, lowerFrom, if_neg (Ne.symm hx.1), ih hx.2]
    simp

theorem lowerChars_of_lowered {x : List Char} (hx : 'Σ' ∉ x) (hlower : x.flatMap lowerChar = x) :
    lowerChars x = x := by
  have happend := lowerFrom_append hx [] []
  rw [List.append_nil, hlower, lowerFrom, List.append_nil] at happend
  exact happend

/-- What stands in front, sigmas included, is lowered in front. -/
theorem exists_lowerFrom_append (x before y : List Char) :
    ∃ z, lowerFrom before (x ++ y) = z ++ lowerFrom (x.reverse ++ before) y := by
  induction x generalizing before with
  | nil => exact ⟨[], rfl⟩
  | cons c rest ih =>
    obtain ⟨z, hz⟩ := ih (c :: before)
    rw [List.cons_append, lowerFrom, hz, List.reverse_cons, List.append_assoc rest.reverse,
      ← List.append_assoc _ z]
    exact ⟨_, rfl⟩

/-- **A part of a text,** lowered, is a part of the lowered text. -/
theorem infix_lowerChars {x : List Char} (hx : 'Σ' ∉ x) (before after : List Char) :
    x.flatMap lowerChar <:+: lowerChars (before ++ (x ++ after)) := by
  obtain ⟨z, hz⟩ := exists_lowerFrom_append before [] (x ++ after)
  rw [lowerChars, hz, lowerFrom_append hx]
  exact List.infix_append' z _ _

theorem not_caseIgnorable_space :
    inRanges caseIgnorableRanges ' '.toNat = false := by decide +kernel

theorem not_cased_space : inRanges casedRanges ' '.toNat = false := by decide +kernel

theorem meetsCased_append_space (b before : List Char) :
    meetsCased (b ++ ' ' :: before) = meetsCased b := by
  induction b with
  | nil =>
    simp only [List.nil_append, meetsCased]
    rw [not_caseIgnorable_space, if_neg Bool.false_ne_true, not_cased_space]
  | cons c rest ih => rw [List.cons_append, meetsCased, meetsCased, ih]

theorem lowerFrom_append_space (b before x : List Char) :
    lowerFrom (b ++ ' ' :: before) x = lowerFrom b x := by
  induction x generalizing b with
  | nil => rfl
  | cons c rest ih =>
    rw [lowerFrom, lowerFrom, meetsCased_append_space, ← List.cons_append, ih]

/-- **A beginning that ends in a space** and is in lower case already stays, and the rest is lowered
as if it stood alone. -/
theorem lowerChars_append {x : List Char} (hx : 'Σ' ∉ x) (hlower : x.flatMap lowerChar = x)
    (y : List Char) :
    lowerChars (x ++ ' ' :: y) = x ++ ' ' :: lowerChars y := by
  have hspace : lowerFrom (x.reverse ++ []) (' ' :: y) = ' ' :: lowerFrom (' ' :: x.reverse) y := by
    rw [List.append_nil]
    rfl
  have hname : lowerFrom (' ' :: x.reverse) y = lowerFrom [] y :=
    lowerFrom_append_space [] x.reverse y
  rw [lowerChars, lowerFrom_append hx, hlower, hspace, hname, lowerChars]

theorem caseIgnorable_colon : inRanges caseIgnorableRanges ':'.toNat = true := by decide +kernel

theorem meetsCased_append_colon (x y : List Char) :
    meetsCased (x ++ ':' :: ' ' :: y) = meetsCased x := by
  induction x with
  | nil =>
    have hspace : meetsCased (' ' :: y) = false := meetsCased_append_space [] y
    have hcolon : meetsCased (':' :: ' ' :: y) = meetsCased (' ' :: y) := by
      rw [meetsCased, if_pos caseIgnorable_colon]
    exact hcolon.trans hspace
  | cons c rest ih => rw [List.cons_append, meetsCased, meetsCased, ih]

theorem lowerFrom_append_colon (x before y : List Char) :
    lowerFrom before (x ++ ':' :: ' ' :: y) =
      lowerFrom before x ++ ':' :: ' ' :: lowerChars y := by
  induction x generalizing before with
  | nil =>
    have hmarks : lowerFrom before (':' :: ' ' :: y) =
        ':' :: ' ' :: lowerFrom (' ' :: ':' :: before) y := rfl
    have hrest : lowerFrom (' ' :: ':' :: before) y = lowerFrom [] y :=
      lowerFrom_append_space [] (':' :: before) y
    rw [List.nil_append, hmarks, hrest, lowerChars, lowerFrom, List.nil_append]
  | cons c rest ih =>
    rw [List.cons_append, lowerFrom, lowerFrom, ih, meetsCased_append_colon, List.append_assoc]

/-- **Two texts with a colon and a space between them** are lowered apart. -/
theorem lowerChars_append_colon (x y : List Char) :
    lowerChars (x ++ ':' :: ' ' :: y) = lowerChars x ++ ':' :: ' ' :: lowerChars y :=
  lowerFrom_append_colon x [] y

end GrantProbe.Text
