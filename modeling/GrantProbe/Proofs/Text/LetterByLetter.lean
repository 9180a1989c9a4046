import GrantProbe.Proofs.Text.Part

/-!
# Lower case letter by letter

The lower case of a text is not put together from the lower case of its letters: whether a capital sigma
becomes the final form depends on what stands around it. That is all that depends on it. Once the two
forms of a small sigma are taken for one, a text is lowered letter by letter, and so a word without a
sigma is found in a lowered text wherever that text stands.

* `medial`, `foldChar`: the final form of a sigma as the other one, and the lower case of a letter by
  itself; `map_medial_lowerFrom`: a text is lowered by it;
* `occursIn_lowerChars`: looking for a word without a sigma;
* `occursIn_lowerChars_around`: a word of a text is a word of every text around it;
* `flatMap_foldChar_asciiLower`: the case of the letters `A`–`Z` makes no difference.
-/

namespace GrantProbe.Text

/-! ## Sigmas -/

/-- A small sigma in its other form, where it is final. -/
def medial (c : Char) : Char := if c = 'ς' then 'σ' else c

/-- **The lower case of a letter by itself,** with the same form for every small sigma. -/
def foldChar (c : Char) : List Char := if c = 'Σ' then ['σ'] else (lowerChar c).map medial

/-- **A text is lowered letter by letter,** forms of sigma aside. -/
theorem map_medial_lowerFrom (before x : List Char) :
    (lowerFrom before x).map medial = x.flatMap foldChar := by
  induction x generalizing before with
  | nil => rfl
  | cons c rest ih =>
    have hletter : (if c = 'Σ' then [if meetsCased before && !meetsCased rest then 'ς' else 'σ']
        else lowerChar c).map medial = foldChar c := by
      unfold foldChar
      by_cases hsigma : c = 'Σ'
      · rw [if_pos hsigma, if_pos hsigma]
        cases meetsCased before && !meetsCased rest <;> rfl
      · rw [if_neg hsigma, if_neg hsigma]
    rw [lowerFrom, List.map_append, hletter, ih, List.flatMap_cons]

/-! ## Words without a sigma -/

/-- The word has no small sigma. -/
def SigmaFree (needle : List Char) : Prop := ∀ c ∈ needle, c ≠ 'σ' ∧ c ≠ 'ς'

instance (needle : List Char) : Decidable (SigmaFree needle) :=
  List.decidableBAll (fun c => c ≠ 'σ' ∧ c ≠ 'ς') needle

theorem isPrefixOf_map_medial {needle : List Char} (h : SigmaFree needle) (hay : List Char) :
    needle.isPrefixOf (hay.map medial) = needle.isPrefixOf hay := by
  induction needle generalizing hay with
  | nil => simp
  | cons c rest ih =>
    obtain ⟨hc, hrest⟩ := List.forall_mem_cons.mp h
    cases hay with
    | nil => rfl
    | cons d hay =>
      have hletter : (c == medial d) = (c == d) := by
        unfold medial
        by_cases hd : d = 'ς'
        · subst hd
          simp [hc.1, hc.2]
        · rw [if_neg hd]
      rw [List.map_cons, List.isPrefixOf, List.isPrefixOf, hletter, ih hrest]

theorem occursIn_map_medial {needle : List Char} (h : SigmaFree needle) (hay : List Char) :
    occursIn needle (hay.map medial) = occursIn needle hay := by
  induction hay with
  | nil => rfl
  | cons d hay ih =>
    have hstart := isPrefixOf_map_medial h (d :: hay)
    rw [List.map_cons] at hstart ⊢
    rw [occursIn, occursIn, hstart, ih]

/-- **Looking for a word without a sigma** in a lowered text, letter by letter. -/
theorem occursIn_lowerChars {needle : List Char} (h : SigmaFree needle) (x : List Char) :
    occursIn needle (lowerChars x) = occursIn needle (x.flatMap foldChar) := by
  rw [← occursIn_map_medial h, lowerChars, map_medial_lowerFrom]

/-- **A word of a text** is a word of every text around it, in any letter case. -/
theorem occursIn_lowerChars_around {needle : List Char} (h : SigmaFree needle)
    (before x after : List Char) (hx : occursIn needle (lowerChars x) = true) :
    occursIn needle (lowerChars (before ++ (x ++ after))) = true := by
  rw [occursIn_lowerChars h, occursIn_iff_isInfix] at hx ⊢
  rw [List.flatMap_append, List.flatMap_append]
  exact hx.trans (List.infix_append' _ _ _)

/-! ## The letters of ASCII -/

theorem foldChar_asciiLowerChar (c : Char) : foldChar (asciiLowerChar c) = foldChar c := by
  have hall : ∀ n < 0x80, foldChar (asciiLowerChar (Char.ofNat n)) = foldChar (Char.ofNat n) := by
    decide +kernel
  by_cases hascii : c.toNat < 0x80
  · have hc := hall c.toNat hascii
    rwa [Char.ofNat_toNat] at hc
  · have hupper : ¬('A' ≤ c ∧ c ≤ 'Z') := by
      rintro ⟨-, hZ⟩
      have hZ' : c.toNat ≤ 90 := hZ
      omega
    rw [asciiLowerChar, if_neg hupper]

/-- **The case of `A`–`Z` makes no difference** to the lower case of a text. -/
theorem flatMap_foldChar_asciiLower (s : String) :
    (asciiLower s).toList.flatMap foldChar = s.toList.flatMap foldChar := by
  rw [asciiLower, String.toList_ofList, List.flatMap_map]
  exact List.flatMap_congr fun c _ => foldChar_asciiLowerChar c

end GrantProbe.Text
