import GrantProbe.Proofs.Json.Grammar

/-!
# Reading texts by the grammar

A text is read if and only if the grammar has it: `Spells` is what is read of a text that is looked
at, and `Quoted` of one that is passed over. So what a text says, and where it ends, is unique.

* `Reader.hexCode_eq_ok_iff`, `Reader.escapedChar_eq_ok_iff`: escapes;
* `Reader.quotedText_eq_ok_iff`, `Reader.passText_eq_ok_iff`: texts;
* `TextIs.unique`, `Quoted.exists_textIs`: a text says one thing or nothing.
-/

namespace GrantProbe.Json

variable {x t : Input}

namespace Reader

/-! ## Escapes -/

theorem length_le_byteCount (x : Input) : x.length ≤ byteCount x := by
  induction x with
  | nil => exact Nat.le_refl 0
  | cons c rest ih =>
    cases c with
    | none =>
      have hcount : byteCount (none :: rest) = 1 + byteCount rest := rfl
      rw [List.length_cons, hcount]
      omega
    | some c =>
      have hcount : byteCount (some c :: rest) = c.utf8Size + byteCount rest := rfl
      have hsize : 0 < c.utf8Size := c.utf8Size_pos
      rw [List.length_cons, hcount]
      omega

/-- **Four digits** stand in front of what is left. -/
theorem hexCode_eq_ok_iff {n : Nat} : hexCode x = .ok (n, t) ↔
    ∃ digits, digits.length = 4 ∧ hexNumber? digits = some n ∧ x = digits ++ t := by
  unfold hexCode
  constructor
  · intro h
    split at h
    · cases h
    · split at h
      · next m hm =>
        split at h
        · next hlength =>
          cases h
          exact ⟨x.take 4, hlength, hm, (List.take_append_drop 4 x).symm⟩
        · cases h
      · cases h
  · rintro ⟨digits, hlength, hdigits, rfl⟩
    have htake : (digits ++ t).take 4 = digits := by
      rw [← hlength, List.take_left]
    have hdrop : (digits ++ t).drop 4 = t := by
      rw [← hlength, List.drop_left]
    have hcount : ¬ byteCount digits < 4 := by
      have hle := length_le_byteCount digits
      omega
    rw [htake, hdrop, if_neg hcount, hdigits]
    exact if_pos hlength

theorem textPlace_eq_ok_iff {c : Option Char} : textPlace x = .ok (c, t) ↔ x = c :: t := by
  rw [textPlace, peek_bind]
  cases x with
  | nil => simp
  | cons d y =>
    have htaken : (advance *> (pure d : Reader (Option Char))) (d :: y) = .ok (d, y) := rfl
    simp [htaken]

theorem textPlace_bind {β : Type} (k : Option Char → Reader β) (c : Option Char) (y : Input) :
    (textPlace >>= k) (c :: y) = k c y :=
  bind_of_ok (textPlace_eq_ok_iff.mpr rfl)

theorem secondHalf_eq_ok_iff {high : Nat} {d : Char} : secondHalf high x = .ok (d, t) ↔
    ∃ digits low, digits.length = 4 ∧ hexNumber? digits = some low ∧ isLowHalf low = true ∧
      d = pairChar high low ∧ x = some '\\' :: some 'u' :: (digits ++ t) := by
  unfold secondHalf
  constructor
  · intro h
    obtain ⟨c, y, hc, hfirst⟩ := bind_eq_ok_iff.mp h
    rw [textPlace_eq_ok_iff] at hc
    split at hfirst
    · cases hfirst
    · next hslash =>
      obtain ⟨c', z, hc', hsecond⟩ := bind_eq_ok_iff.mp hfirst
      rw [textPlace_eq_ok_iff] at hc'
      split at hsecond
      · cases hsecond
      · next hu =>
        obtain ⟨low, w, hlow, hpair⟩ := bind_eq_ok_iff.mp hsecond
        obtain ⟨digits, hlength, hdigits, hz⟩ := hexCode_eq_ok_iff.mp hlow
        split at hpair
        · next hhalf =>
          rw [pure_apply, Except.ok.injEq, Prod.mk.injEq] at hpair
          rw [ne_eq, Decidable.not_not] at hslash hu
          exact ⟨digits, low, hlength, hdigits, hhalf, hpair.1.symm,
            by rw [hc, hc', hz, hslash, hu, hpair.2]⟩
        · cases hpair
  · rintro ⟨digits, low, hlength, hdigits, hhalf, hd, hx⟩
    have hcode : hexCode (digits ++ t) = .ok (low, t) :=
      hexCode_eq_ok_iff.mpr ⟨digits, hlength, hdigits, rfl⟩
    rw [hx]
    simp only [textPlace_bind, ne_eq, not_true_eq_false, if_false]
    rw [bind_of_ok hcode, if_pos hhalf, hd]
    rfl

/-- **An escape,** behind its backslash: a letter, the code of a character, or of half a pair with
the other half behind it. -/
theorem escapedChar_eq_ok_iff {d : Char} : escapedChar x = .ok (d, t) ↔
    (∃ c, namedEscape? c = some d ∧ x = c :: t) ∨
    (∃ digits n, digits.length = 4 ∧ hexNumber? digits = some n ∧ isLowHalf n = false ∧
      isHighHalf n = false ∧ d = Char.ofNat n ∧ x = some 'u' :: (digits ++ t)) ∨
    (∃ digits high more low, digits.length = 4 ∧ hexNumber? digits = some high ∧
      isHighHalf high = true ∧ more.length = 4 ∧ hexNumber? more = some low ∧
      isLowHalf low = true ∧ d = pairChar high low ∧
      x = some 'u' :: (digits ++ some '\\' :: some 'u' :: (more ++ t))) := by
  have hu : namedEscape? (some 'u') = none := rfl
  unfold escapedChar
  constructor
  · intro h
    obtain ⟨c, y, hc, hescape⟩ := bind_eq_ok_iff.mp h
    rw [textPlace_eq_ok_iff] at hc
    cases he : namedEscape? c with
    | some e =>
      rw [he] at hescape
      cases hescape
      exact Or.inl ⟨c, he, hc⟩
    | none =>
      rw [he] at hescape
      by_cases hcode : c = some 'u'
      · simp only [hcode, if_true] at hescape
        obtain ⟨n, z, hn, hchar⟩ := bind_eq_ok_iff.mp hescape
        obtain ⟨digits, hlength, hdigits, hy⟩ := hexCode_eq_ok_iff.mp hn
        cases hlow : isLowHalf n with
        | true =>
          rw [hlow] at hchar
          cases hchar
        | false =>
          cases hhigh : isHighHalf n with
          | true =>
            rw [hlow, hhigh] at hchar
            obtain ⟨more, low, hlength', hmore, hhalf, hd, hz⟩ := secondHalf_eq_ok_iff.mp hchar
            exact Or.inr (Or.inr ⟨digits, n, more, low, hlength, hdigits, hhigh, hlength', hmore,
              hhalf, hd, by rw [hc, hcode, hy, hz]⟩)
          | false =>
            rw [hlow, hhigh] at hchar
            cases hchar
            exact Or.inr (Or.inl ⟨digits, n, hlength, hdigits, hlow, hhigh, rfl,
              by rw [hc, hcode, hy]⟩)
      · simp only [hcode, if_false] at hescape
        cases hescape
  · rintro (⟨c, hc, hx⟩ | ⟨digits, n, hlength, hdigits, hlow, hhigh, hd, hx⟩ |
      ⟨digits, high, more, low, hlength, hdigits, hhigh, hlength', hmore, hlow, hd, hx⟩) <;>
      rw [hx]
    · rw [textPlace_bind, hc]
      rfl
    · have hcode : hexCode (digits ++ t) = .ok (n, t) :=
        hexCode_eq_ok_iff.mpr ⟨digits, hlength, hdigits, rfl⟩
      simp only [textPlace_bind, hu, if_true]
      rw [bind_of_ok hcode, hlow, hhigh, hd]
      rfl
    · have hcode : hexCode (digits ++ some '\\' :: some 'u' :: (more ++ t)) =
          .ok (high, some '\\' :: some 'u' :: (more ++ t)) :=
        hexCode_eq_ok_iff.mpr ⟨digits, hlength, hdigits, rfl⟩
      have hhalf : isLowHalf high = false := by
        simp only [isHighHalf, Bool.and_eq_true, decide_eq_true_eq] at hhigh
        simp only [isLowHalf, Bool.and_eq_false_iff, decide_eq_false_iff_not]
        omega
      simp only [textPlace_bind, hu, if_true]
      rw [bind_of_ok hcode, hhalf, hhigh]
      exact secondHalf_eq_ok_iff.mpr ⟨more, low, hlength', hmore, hlow, hd, rfl⟩

/-! ## Texts that are looked at -/

theorem charsOf_eq_some_iff {places : List (Option Char)} {s : List Char} :
    charsOf places = some s ↔ places = s.map some := by
  induction places generalizing s with
  | nil => cases s <;> simp [charsOf]
  | cons c rest ih =>
    cases c with
    | none => cases s <;> simp [charsOf]
    | some c =>
      rw [charsOf, Option.map_eq_some_iff]
      constructor
      · rintro ⟨s', hs', rfl⟩
        rw [ih.mp hs', List.map_cons]
      · intro h
        cases s with
        | nil => cases h
        | cons d s' =>
          rw [List.map_cons, List.cons.injEq, Option.some.injEq] at h
          exact ⟨s', ih.mpr h.2, by rw [h.1]⟩

/-- Reads the rest of a text behind a character. -/
def textBehind (c : Option Char) (fuel : Nat) : Reader (List (Option Char)) := do
  return c :: (← textRest fuel)

theorem textRest_escape (fuel : Nat) (y : Input) : textRest (fuel + 1) (some '\\' :: y) =
    (escapedChar >>= fun c => textBehind (some c) fuel) y := rfl

theorem textRest_plain {c : Option Char} (hc : isPlain c = true) (fuel : Nat) (y : Input) :
    textRest (fuel + 1) (c :: y) = textBehind c fuel y := by
  simp only [isPlain, Bool.and_eq_true, bne_iff_ne, ne_eq, Bool.not_eq_true'] at hc
  obtain ⟨⟨hquote, hslash⟩, hcontrol⟩ := hc
  rw [textRest, textPlace_bind]
  simp only [hcontrol]
  rfl

theorem textRest_control {c : Option Char} (hc : isPlain c = false) (hquote : c ≠ some '"')
    (hslash : c ≠ some '\\') (fuel : Nat) (y : Input) :
    textRest (fuel + 1) (c :: y) = .error .controlCharacter := by
  have hcontrol : (c.any fun c => c.toNat < 0x20) = true := by
    simpa [isPlain, hquote, hslash] using hc
  rw [textRest, textPlace_bind]
  simp only [hcontrol]
  rfl

theorem textBehind_eq_ok_iff {c : Option Char} {fuel : Nat} {s : List Char} :
    textBehind c fuel x = .ok (s.map some, t) ↔
      ∃ d s', c = some d ∧ s = d :: s' ∧ textRest fuel x = .ok (s'.map some, t) := by
  unfold textBehind
  rw [bind_eq_ok_iff]
  constructor
  · rintro ⟨l, y, hl, hs⟩
    rw [pure_apply, Except.ok.injEq, Prod.mk.injEq] at hs
    obtain ⟨d, s', rfl, rfl, rfl⟩ := List.map_eq_cons_iff.mp hs.1.symm
    exact ⟨d, s', rfl, rfl, by rw [hl, hs.2]⟩
  · rintro ⟨d, s', rfl, rfl, hrest⟩
    exact ⟨s'.map some, t, hrest, rfl⟩

/-- What is read of a text is what the grammar has it say. -/
theorem spells_of_textRest {fuel : Nat} {s : List Char}
    (h : textRest fuel x = .ok (s.map some, t)) : Spells x s t := by
  induction fuel generalizing x s with
  | zero => cases h
  | succ fuel ih =>
    cases x with
    | nil => cases h
    | cons c y =>
      by_cases hquote : c = some '"'
      · subst hquote
        have hend : Except.ok (([] : List (Option Char)), y) = .ok (s.map some, t) := h
        rw [Except.ok.injEq, Prod.mk.injEq] at hend
        rw [List.map_eq_nil_iff.mp hend.1.symm, hend.2]
        exact .close
      · by_cases hslash : c = some '\\'
        · subst hslash
          rw [textRest_escape] at h
          obtain ⟨d, z, hd, hbehind⟩ := bind_eq_ok_iff.mp h
          obtain ⟨d', s', hd', rfl, hrest⟩ := textBehind_eq_ok_iff.mp hbehind
          rw [← Option.some.inj hd']
          rcases escapedChar_eq_ok_iff.mp hd with ⟨e, he, rfl⟩ |
            ⟨digits, n, hlength, hdigits, hlow, hhigh, rfl, rfl⟩ |
            ⟨digits, high, more, low, hlength, hdigits, hhigh, hlength', hmore, hlow, hpair, rfl⟩
          · exact .named he (ih hrest)
          · exact .code hlength hdigits hlow hhigh (ih hrest)
          · rw [hpair]
            exact .pair hlength hdigits hhigh hlength' hmore hlow (ih hrest)
        · cases hplain : isPlain c with
          | true =>
            rw [textRest_plain hplain] at h
            obtain ⟨d, s', rfl, rfl, hrest⟩ := textBehind_eq_ok_iff.mp h
            exact .plain hplain (ih hrest)
          | false =>
            rw [textRest_control hplain hquote hslash] at h
            cases h

/-- What the grammar has a text say is read of it. -/
theorem textRest_of_spells {s : List Char} (h : Spells x s t) {fuel : Nat}
    (hfuel : x.length ≤ fuel) : textRest fuel x = .ok (s.map some, t) := by
  induction h generalizing fuel with
  | close =>
    cases fuel with
    | zero => cases hfuel
    | succ fuel => rfl
  | plain hc _ ih =>
    cases fuel with
    | zero => cases hfuel
    | succ fuel =>
      rw [textRest_plain hc]
      exact textBehind_eq_ok_iff.mpr ⟨_, _, rfl, rfl, ih (Nat.le_of_succ_le_succ hfuel)⟩
  | named hc _ ih =>
    cases fuel with
    | zero => cases hfuel
    | succ fuel =>
      have hlength : _ + 1 ≤ fuel := Nat.le_of_succ_le_succ hfuel
      rw [textRest_escape, bind_of_ok (escapedChar_eq_ok_iff.mpr (Or.inl ⟨_, hc, rfl⟩))]
      exact textBehind_eq_ok_iff.mpr ⟨_, _, rfl, rfl, ih (Nat.le_of_succ_le hlength)⟩
  | code hlength hdigits hlow hhigh _ ih =>
    cases fuel with
    | zero => cases hfuel
    | succ fuel =>
      simp only [List.length_cons, List.length_append] at hfuel
      rw [textRest_escape, bind_of_ok (escapedChar_eq_ok_iff.mpr
        (Or.inr (Or.inl ⟨_, _, hlength, hdigits, hlow, hhigh, rfl, rfl⟩)))]
      exact textBehind_eq_ok_iff.mpr ⟨_, _, rfl, rfl, ih (by omega)⟩
  | pair hlength hdigits hhigh hlength' hmore hlow _ ih =>
    cases fuel with
    | zero => cases hfuel
    | succ fuel =>
      simp only [List.length_cons, List.length_append] at hfuel
      rw [textRest_escape, bind_of_ok (escapedChar_eq_ok_iff.mpr
        (Or.inr (Or.inr ⟨_, _, _, _, hlength, hdigits, hhigh, hlength', hmore, hlow, rfl, rfl⟩)))]
      exact textBehind_eq_ok_iff.mpr ⟨_, _, rfl, rfl, ih (by omega)⟩

/-- **A text is read** if and only if the grammar has it. -/
theorem quotedText_eq_ok_iff {s : String} :
    quotedText (some '"' :: x) = .ok (s, t) ↔ Spells x s.toList t := by
  unfold quotedText
  rw [advance_bind, remaining_bind, List.tail_cons]
  constructor
  · intro h
    obtain ⟨places, y, hplaces, hchars⟩ := bind_eq_ok_iff.mp h
    cases hc : charsOf places with
    | none =>
      rw [hc] at hchars
      cases hchars
    | some cs =>
      rw [hc] at hchars
      simp only [pure_apply, Except.ok.injEq, Prod.mk.injEq] at hchars
      obtain ⟨rfl, rfl⟩ := hchars
      rw [charsOf_eq_some_iff.mp hc] at hplaces
      rw [String.toList_ofList]
      exact spells_of_textRest hplaces
  · intro h
    have hchars : charsOf (s.toList.map some) = some s.toList := charsOf_eq_some_iff.mpr rfl
    rw [bind_of_ok (textRest_of_spells h (Nat.le_succ _)), hchars]
    simp

/-! ## Texts that are passed over -/

theorem passTextRest_plain {c : Option Char} (hc : isPlain c = true) (fuel : Nat) (y : Input) :
    passTextRest (fuel + 1) (c :: y) = passTextRest fuel y := by
  simp only [isPlain, Bool.and_eq_true, bne_iff_ne, ne_eq, Bool.not_eq_true'] at hc
  obtain ⟨⟨hquote, hslash⟩, hcontrol⟩ := hc
  rw [passTextRest, textPlace_bind]
  simp only [hcontrol]
  rfl

theorem passTextRest_control {c : Option Char} (hc : isPlain c = false) (hquote : c ≠ some '"')
    (hslash : c ≠ some '\\') (fuel : Nat) (y : Input) :
    passTextRest (fuel + 1) (c :: y) = .error .controlCharacter := by
  have hcontrol : (c.any fun c => c.toNat < 0x20) = true := by
    simpa [isPlain, hquote, hslash] using hc
  rw [passTextRest, textPlace_bind]
  simp only [hcontrol]
  rfl

theorem quoted_of_passTextRest {fuel : Nat} (h : passTextRest fuel x = .ok ((), t)) :
    Quoted x t := by
  induction fuel generalizing x with
  | zero => cases h
  | succ fuel ih =>
    cases x with
    | nil => cases h
    | cons c y =>
      by_cases hquote : c = some '"'
      · subst hquote
        have hend : Except.ok ((), y) = .ok ((), t) := h
        rw [Except.ok.injEq, Prod.mk.injEq] at hend
        rw [hend.2]
        exact .close
      · by_cases hslash : c = some '\\'
        · subst hslash
          rw [passTextRest, textPlace_bind] at h
          obtain ⟨d, z, hd, hescape⟩ := bind_eq_ok_iff.mp h
          rw [textPlace_eq_ok_iff.mp hd]
          cases he : namedEscape? d with
          | some e =>
            rw [he] at hescape
            exact .named (by rw [he]; rfl) (ih hescape)
          | none =>
            rw [he] at hescape
            by_cases hcode : d = some 'u'
            · simp only [hcode, if_true] at hescape
              obtain ⟨n, w, hn, hrest⟩ := bind_eq_ok_iff.mp hescape
              obtain ⟨digits, hlength, hdigits, rfl⟩ := hexCode_eq_ok_iff.mp hn
              rw [hcode]
              exact .code hlength (by rw [hdigits]; rfl) (ih hrest)
            · simp only [hcode, if_false] at hescape
              cases hescape
        · cases hplain : isPlain c with
          | true =>
            rw [passTextRest_plain hplain] at h
            exact .plain hplain (ih h)
          | false =>
            rw [passTextRest_control hplain hquote hslash] at h
            cases h

theorem passTextRest_of_quoted (h : Quoted x t) {fuel : Nat} (hfuel : x.length ≤ fuel) :
    passTextRest fuel x = .ok ((), t) := by
  induction h generalizing fuel with
  | close =>
    cases fuel with
    | zero => cases hfuel
    | succ fuel => rfl
  | plain hc _ ih =>
    cases fuel with
    | zero => cases hfuel
    | succ fuel =>
      rw [passTextRest_plain hc]
      exact ih (Nat.le_of_succ_le_succ hfuel)
  | @named c x t hc _ ih =>
    cases fuel with
    | zero => cases hfuel
    | succ fuel =>
      obtain ⟨d, hd⟩ := Option.isSome_iff_exists.mp hc
      have hlength : x.length + 1 ≤ fuel := Nat.le_of_succ_le_succ hfuel
      rw [passTextRest, textPlace_bind]
      simp only [textPlace_bind, hd]
      exact ih (Nat.le_of_succ_le hlength)
  | @code digits x t hlength hdigits _ ih =>
    cases fuel with
    | zero => cases hfuel
    | succ fuel =>
      obtain ⟨n, hn⟩ := Option.isSome_iff_exists.mp hdigits
      have hcode : hexCode (digits ++ x) = .ok (n, x) :=
        hexCode_eq_ok_iff.mpr ⟨digits, hlength, hn, rfl⟩
      have hu : namedEscape? (some 'u') = none := rfl
      simp only [List.length_cons, List.length_append] at hfuel
      rw [passTextRest, textPlace_bind]
      simp only [textPlace_bind, hu, if_true]
      rw [bind_of_ok hcode]
      exact ih (by omega)

/-- **A text is passed over** if and only if the grammar has it. -/
theorem passText_eq_ok_iff : passText (some '"' :: x) = .ok ((), t) ↔ Quoted x t := by
  unfold passText
  rw [advance_bind, remaining_bind, List.tail_cons]
  exact ⟨quoted_of_passTextRest, fun h => passTextRest_of_quoted h (Nat.le_succ _)⟩

end Reader

/-! ## What a text says -/

open Reader

theorem Quoted.unique {t' : Input} (h : Quoted x t) (h' : Quoted x t') : t = t' := by
  have hread := passText_eq_ok_iff.mpr h
  rw [passText_eq_ok_iff.mpr h', Except.ok.injEq, Prod.mk.injEq] at hread
  exact hread.2.symm

theorem Spells.unique {s s' : List Char} {t' : Input} (h : Spells x s t) (h' : Spells x s' t') :
    s = s' := by
  have hread := textRest_of_spells h (Nat.le_refl _)
  rw [textRest_of_spells h' (Nat.le_refl _), Except.ok.injEq, Prod.mk.injEq] at hread
  exact ((List.map_inj_right fun _ _ => Option.some.inj).mp hread.1).symm

theorem Spells.textIs {s : List Char} (h : Spells x s t) : TextIs x (some (String.ofList s)) t where
  quoted := h.quoted
  said_iff s' := by
    constructor
    · intro hs
      rw [← Option.some.inj hs, String.toList_ofList]
      exact h
    · intro h'
      rw [h.unique h', String.ofList_toList]

/-- **A text says one thing or nothing.** -/
theorem Quoted.exists_textIs (h : Quoted x t) : ∃ said, TextIs x said t := by
  by_cases hsaid : ∃ s, Spells x s t
  · obtain ⟨s, hs⟩ := hsaid
    exact ⟨_, hs.textIs⟩
  · refine ⟨none, h, fun s => ⟨fun hs => (by cases hs), fun hs => absurd ⟨_, hs⟩ hsaid⟩⟩

theorem TextIs.unique {said said' : Option String} {t' : Input} (h : TextIs x said t)
    (h' : TextIs x said' t') : said = said' ∧ t = t' := by
  obtain rfl := h.quoted.unique h'.quoted
  refine ⟨Option.ext fun s => ?_, rfl⟩
  rw [h.said_iff, h'.said_iff]

end GrantProbe.Json
