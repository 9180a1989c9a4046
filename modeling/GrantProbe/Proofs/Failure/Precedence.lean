import GrantProbe.Proofs.Text.LetterByLetter
import GrantProbe.Proofs.Tracking.Wording

/-!
# Which kind of failure comes first

The rows of the classification table are tried in their order, and a row looks for nothing but words. So
text around a message can only add words, and move the message to an earlier row; and letter case does
not count.

* `FailureCode.rank`: the place of a kind in the table; `rank_ofWords`: the first row that matches;
* `rank_ofWords_le`: more words never give a later row;
* `mentions_around`, `mentions_eq_of_asciiLower`: the words of a text in other surroundings, and in
  another letter case;
* `classification_is_monotone`: both for every text.
-/

namespace GrantProbe

/-- **The rank of a kind of failure:** the place of its row in the classification table. There is no row
for internal errors, which come last. -/
def FailureCode.rank (code : FailureCode) : Nat := patterns.findIdx (·.code == code)

example : FailureCode.all.map FailureCode.rank = List.range 10 := by decide

/-! ## Rows -/

namespace FailureCode

variable {has has' : String → Bool}

theorem ofRows_eq_or_mem (has : String → Bool) (rows : List Pattern) :
    ofRows has rows = .internalError ∨ ofRows has rows ∈ rows.map Pattern.code := by
  induction rows with
  | nil => exact Or.inl rfl
  | cons p rows ih =>
    rw [ofRows_cons, List.map_cons]
    by_cases hp : p.coversWords has = true
    · rw [if_pos hp]
      exact Or.inr List.mem_cons_self
    · rw [if_neg hp]
      exact ih.imp_right (List.mem_cons_of_mem _)

/-- The row of the kind that words make is the first that matches them, if no two rows have one kind. -/
theorem findIdx_ofRows (has : String → Bool) {rows : List Pattern}
    (hcodes : (.internalError :: rows.map Pattern.code).Nodup) :
    rows.findIdx (·.code == ofRows has rows) = rows.findIdx (Pattern.coversWords has) := by
  induction rows with
  | nil => rfl
  | cons p rows ih =>
    rw [List.map_cons] at hcodes
    have hrest : (.internalError :: rows.map Pattern.code).Nodup := by
      simp only [List.nodup_cons, List.mem_cons, not_or] at hcodes ⊢
      exact ⟨hcodes.1.2, hcodes.2.2⟩
    rw [ofRows_cons, List.findIdx_cons, List.findIdx_cons]
    by_cases hp : p.coversWords has = true
    · simp [hp]
    · -- The row does not match, and no other row nor the default has its kind.
      have hother : (p.code == ofRows has rows) = false := by
        refine beq_eq_false_iff_ne.mpr fun heq => ?_
        simp only [List.nodup_cons, List.mem_cons, not_or] at hcodes
        rcases ofRows_eq_or_mem has rows with hinternal | hmem
        · exact hcodes.1.1 (hinternal.symm.trans heq.symm)
        · exact hcodes.2.1 (heq ▸ hmem)
      simp [hp, hother, ih hrest]

/-- **The rank of the kind that words make** is the place of the first row that matches them. -/
theorem rank_ofWords (has : String → Bool) :
    (ofWords has).rank = patterns.findIdx (Pattern.coversWords has) :=
  findIdx_ofRows has (by decide)

/-- **More words never give a later row.** -/
theorem rank_ofWords_le (h : ∀ word ∈ tableWords, has word = true → has' word = true) :
    (ofWords has').rank ≤ (ofWords has).rank := by
  rw [rank_ofWords, rank_ofWords]
  refine List.findIdx_le_findIdx fun p hp hcovers => ?_
  simp only [Pattern.coversWords, List.any_eq_true, List.all_eq_true] at hcovers ⊢
  obtain ⟨group, hgroup, hall⟩ := hcovers
  exact ⟨group, hgroup, fun word hword => h word (mem_tableWords hp hgroup hword) (hall word hword)⟩

end FailureCode

/-! ## Words of a text -/

theorem sigmaFree_of_mem_tableWords {word : String} (h : word ∈ tableWords) :
    Text.SigmaFree word.toList := by
  have hall : ∀ word ∈ tableWords, Text.SigmaFree word.toList := by decide +kernel
  exact hall word h

/-- **A text says what a part of it says.** -/
theorem mentions_around {word : String} (h : word ∈ tableWords) (before message after : String)
    (hsaid : Text.mentions message word = true) :
    Text.mentions (before ++ message ++ after) word = true := by
  unfold Text.mentions at hsaid ⊢
  rw [String.toList_append, String.toList_append, List.append_assoc]
  exact Text.occursIn_lowerChars_around (sigmaFree_of_mem_tableWords h) _ _ _ hsaid

/-- **Texts that differ in letter case** say the same words. -/
theorem mentions_eq_of_asciiLower {word : String} (h : word ∈ tableWords) {message other : String}
    (hcase : Text.asciiLower other = Text.asciiLower message) :
    Text.mentions other word = Text.mentions message word := by
  have hfree := sigmaFree_of_mem_tableWords h
  unfold Text.mentions
  rw [Text.occursIn_lowerChars hfree, Text.occursIn_lowerChars hfree,
    ← Text.flatMap_foldChar_asciiLower other, hcase, Text.flatMap_foldChar_asciiLower]

/-- **Text around a message** moves it to an earlier row of the table, if to another one at all; and a
message with the case of letters `A`–`Z` changed is classified as it was. Both hold in full Unicode, where
lower case may depend on what stands around a letter and change the length of a text. -/
theorem classification_is_monotone (message : String) :
    (∀ before after, (FailureCode.ofMessage (before ++ message ++ after)).rank ≤
      (FailureCode.ofMessage message).rank) ∧
    ∀ other, Text.asciiLower other = Text.asciiLower message →
      FailureCode.ofMessage other = FailureCode.ofMessage message := by
  refine ⟨fun before after => ?_, fun other hcase => ?_⟩
  · rw [FailureCode.ofMessage_eq_ofWords, FailureCode.ofMessage_eq_ofWords]
    exact FailureCode.rank_ofWords_le fun word hword => mentions_around hword before message after
  · rw [FailureCode.ofMessage_eq_ofWords, FailureCode.ofMessage_eq_ofWords]
    exact FailureCode.ofWords_congr fun word hword => mentions_eq_of_asciiLower hword hcase

/-- The sigma at the end of a text becomes a final one, and not so before another letter; what the text
is classified as does not hang on it, nor on the case of its other letters. -/
theorem classification_of_sigma :
    Text.lower "LIMIT ΤΕΛΟΣ" = "limit τελος" ∧ Text.lower "LIMIT ΤΕΛΟΣΑ" = "limit τελοσα" ∧
    (FailureCode.ofMessage ("Permission " ++ "LIMIT ΤΕΛΟΣ" ++ "Α denied")).rank ≤
      (FailureCode.ofMessage "LIMIT ΤΕΛΟΣ").rank ∧
    Text.asciiLower "LiMiT ΤΕΛΟΣ" = Text.asciiLower "LIMIT ΤΕΛΟΣ" ∧
    FailureCode.ofMessage "LiMiT ΤΕΛΟΣ" = FailureCode.ofMessage "LIMIT ΤΕΛΟΣ" := by
  obtain ⟨haround, hcase⟩ := classification_is_monotone "LIMIT ΤΕΛΟΣ"
  have hletters : Text.asciiLower "LiMiT ΤΕΛΟΣ" = Text.asciiLower "LIMIT ΤΕΛΟΣ" := by
    decide +kernel
  exact ⟨by decide +kernel, by decide +kernel, haround _ _, hletters, hcase _ hletters⟩

end GrantProbe
