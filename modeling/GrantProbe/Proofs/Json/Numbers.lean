import GrantProbe.Proofs.Json.Texts

/-!
# Passing over numbers by the grammar

* `Reader.passNumber_eq_ok_iff`: a number is passed over if and only if the grammar has it, part by
  part;
* `Numeral.length_lt`, `Numeral.exists_cons`: a number takes some of the document, and begins with a
  minus or with a digit.
-/

namespace GrantProbe.Json

variable {x y z t : Input}

theorem pastMinus_eq_self (h : x.head? ≠ some (some '-')) : pastMinus x = x := by
  unfold pastMinus
  split
  · exact absurd rfl h
  · rfl

namespace Reader

/-! ## Numbers -/

theorem countDigits_eq (n : Nat) (x : Input) :
    countDigits n x = (n + (x.takeWhile isDecimal).length, x.dropWhile isDecimal) := by
  induction x generalizing n with
  | nil => rfl
  | cons c rest ih =>
    have hcons : countDigits n (c :: rest) =
        if isDecimal c then countDigits (n + 1) rest else (n, c :: rest) := rfl
    rw [hcons]
    by_cases hc : isDecimal c = true
    · rw [if_pos hc, ih, List.takeWhile_cons_of_pos hc, List.dropWhile_cons_of_pos hc,
        List.length_cons, Nat.add_assoc, Nat.add_comm 1]
    · rw [if_neg hc, List.takeWhile_cons_of_neg hc, List.dropWhile_cons_of_neg hc]
      rfl

theorem passDigits_bind {β : Type} (k : Nat → Reader β) (x : Input) :
    (passDigits >>= k) x = k (x.takeWhile isDecimal).length (x.dropWhile isDecimal) := by
  refine bind_of_ok ?_
  rw [passDigits, countDigits_eq, Nat.zero_add]

theorem someDigits_eq_ok_iff : someDigits x = .ok ((), t) ↔ Digits x t := by
  rw [someDigits, passDigits_bind]
  constructor
  · intro h
    cases x with
    | nil => cases h
    | cons c y =>
      by_cases hc : isDecimal c = true
      · rw [List.takeWhile_cons_of_pos hc, List.dropWhile_cons_of_pos hc] at h
        have hrest : y.dropWhile isDecimal = t := by simpa using h
        rw [← hrest]
        exact .run hc
      · rw [List.takeWhile_cons_of_neg hc] at h
        cases h
  · rintro ⟨hc⟩
    rw [List.takeWhile_cons_of_pos hc, List.dropWhile_cons_of_pos hc]
    rfl

/-- Whether the next place holds a digit. -/
def startsDecimal (x : Input) : Bool := x.head?.any isDecimal

theorem atDigit_bind {β : Type} (k : Bool → Reader β) (x : Input) :
    (atDigit >>= k) x = k (startsDecimal x) x := by
  refine bind_of_ok ?_
  rw [atDigit, peek_bind, startsDecimal]
  cases x.head? <;> rfl

theorem passWhole_eq_ok_iff : passWhole x = .ok ((), t) ↔ Whole x t := by
  rw [passWhole, peek_bind]
  constructor
  · intro h
    by_cases hzero : x.head? = some (some '0')
    · obtain ⟨y, rfl⟩ := List.head?_eq_some_iff.mp hzero
      rw [if_pos hzero, advance_bind, atDigit_bind, List.tail_cons] at h
      cases hy : startsDecimal y with
      | true =>
        rw [hy] at h
        cases h
      | false =>
        rw [hy] at h
        have hrest : y = t := by simpa using h
        rw [← hrest]
        refine .zero fun c hc => ?_
        rw [startsDecimal, Option.mem_def.mp hc] at hy
        exact hy
    · rw [if_neg hzero] at h
      exact .digits hzero (someDigits_eq_ok_iff.mp h)
  · intro h
    cases h with
    | zero hnext =>
      have hy : startsDecimal t = false := by
        rw [startsDecimal]
        cases hc : t.head? with
        | none => rfl
        | some c => exact hnext c hc
      rw [List.head?_cons, if_pos rfl, advance_bind, atDigit_bind, List.tail_cons, hy]
      rfl
    | digits hzero hdigits =>
      rw [if_neg hzero]
      exact someDigits_eq_ok_iff.mpr hdigits

theorem exists_exponentSign_eq (x : Input) : ∃ down, exponentSign x = .ok (down, pastSign x) := by
  unfold exponentSign
  rw [peek_bind]
  cases x with
  | nil => exact ⟨false, rfl⟩
  | cons c y =>
    by_cases hplus : c = some '+'
    · exact ⟨false, by rw [hplus]; rfl⟩
    · by_cases hminus : c = some '-'
      · exact ⟨true, by rw [hminus]; rfl⟩
      · refine ⟨false, ?_⟩
        have hsign : pastSign (c :: y) = c :: y := by
          unfold pastSign
          split <;> simp_all
        simp [hsign, hplus, hminus]

theorem passExponent_eq_ok_iff : passExponent x = .ok ((), t) ↔ Exponent x t := by
  rw [passExponent, peek_bind]
  cases x with
  | nil =>
    constructor
    · intro h
      have hrest : [] = t := by simpa using h
      rw [← hrest]
      exact .nothing fun c hc => (by cases hc)
    · rintro ⟨⟩
      rfl
  | cons c y =>
    obtain ⟨down, hdown⟩ := exists_exponentSign_eq y
    simp only [List.head?_cons]
    by_cases hc : isExponentMark c = true
    · rw [if_pos hc, advance_bind, List.tail_cons, bind_of_ok hdown, someDigits_eq_ok_iff]
      constructor
      · exact .digits hc
      · intro h
        cases h with
        | nothing hnot => exact absurd hc (by rw [hnot c rfl]; exact Bool.false_ne_true)
        | digits _ hdigits => exact hdigits
    · rw [if_neg hc]
      constructor
      · intro h
        have hrest : c :: y = t := by simpa using h
        rw [← hrest]
        refine .nothing fun d hd => ?_
        rw [← Option.some.inj hd]
        exact Bool.eq_false_iff.mpr hc
      · intro h
        cases h with
        | nothing hnot => rfl
        | digits hc' _ => exact absurd hc' hc

/-- What follows the digits before the point. -/
def passTail : Reader Unit := do
  if (← peek) = some (some '.') then
    advance
    someDigits
  else pure ()
  passExponent

theorem passTail_eq_ok_iff : passTail x = .ok ((), t) ↔ ∃ y, Fraction x y ∧ Exponent y t := by
  rw [passTail, peek_bind]
  by_cases hpoint : x.head? = some (some '.')
  · obtain ⟨y, rfl⟩ := List.head?_eq_some_iff.mp hpoint
    rw [if_pos hpoint, advance_bind, List.tail_cons, bind_eq_ok_iff]
    constructor
    · rintro ⟨u, z, hdigits, hexponent⟩
      exact ⟨z, .digits (someDigits_eq_ok_iff.mp hdigits), passExponent_eq_ok_iff.mp hexponent⟩
    · rintro ⟨z, hfraction, hexponent⟩
      cases hfraction with
      | nothing hnot => exact absurd hpoint hnot
      | digits hdigits =>
        exact ⟨(), z, someDigits_eq_ok_iff.mpr hdigits, passExponent_eq_ok_iff.mpr hexponent⟩
  · rw [if_neg hpoint, passExponent_eq_ok_iff]
    constructor
    · exact fun hexponent => ⟨x, .nothing hpoint, hexponent⟩
    · rintro ⟨z, hfraction, hexponent⟩
      cases hfraction with
      | nothing _ => exact hexponent
      | digits _ => exact absurd rfl hpoint

theorem passNumber_eq (x : Input) :
    passNumber x = (passWhole >>= fun _ => passTail) (pastMinus x) := by
  by_cases hminus : x.head? = some (some '-')
  · obtain ⟨y, rfl⟩ := List.head?_eq_some_iff.mp hminus
    rfl
  · rw [passNumber, peek_bind, if_neg hminus, pastMinus_eq_self hminus]
    rfl

/-- **A number is passed over** if and only if the grammar has it. -/
theorem passNumber_eq_ok_iff : passNumber x = .ok ((), t) ↔ Numeral x t := by
  rw [passNumber_eq, bind_eq_ok_iff]
  constructor
  · rintro ⟨u, y, hwhole, htail⟩
    obtain ⟨z, hfraction, hexponent⟩ := passTail_eq_ok_iff.mp htail
    exact .parts (passWhole_eq_ok_iff.mp hwhole) hfraction hexponent
  · rintro ⟨hwhole, hfraction, hexponent⟩
    exact ⟨(), _, passWhole_eq_ok_iff.mpr hwhole, passTail_eq_ok_iff.mpr ⟨_, hfraction, hexponent⟩⟩

end Reader

/-! ## What a number takes -/

theorem Digits.length_lt (h : Digits x t) : t.length < x.length := by
  cases h with
  | run hc => exact Nat.lt_succ_of_le (List.dropWhile_sublist _).length_le

theorem Whole.length_lt (h : Whole x t) : t.length < x.length := by
  cases h with
  | zero _ => exact Nat.lt_succ_self _
  | digits _ hdigits => exact hdigits.length_lt

theorem Fraction.length_le (h : Fraction x t) : t.length ≤ x.length := by
  cases h with
  | nothing _ => exact Nat.le_refl _
  | digits hdigits => exact Nat.le_succ_of_le (Nat.le_of_lt hdigits.length_lt)

theorem length_pastSign_le (x : Input) : (pastSign x).length ≤ x.length := by
  unfold pastSign
  split <;> simp

theorem Exponent.length_le (h : Exponent x t) : t.length ≤ x.length := by
  cases h with
  | nothing _ => exact Nat.le_refl _
  | digits _ hdigits =>
    exact Nat.le_succ_of_le (Nat.le_trans (Nat.le_of_lt hdigits.length_lt) (length_pastSign_le _))

theorem length_pastMinus_le (x : Input) : (pastMinus x).length ≤ x.length := by
  unfold pastMinus
  split <;> simp

theorem Numeral.length_lt (h : Numeral x t) : t.length < x.length := by
  cases h with
  | parts hwhole hfraction hexponent =>
    calc t.length ≤ _ := hexponent.length_le
      _ ≤ _ := hfraction.length_le
      _ < (pastMinus x).length := hwhole.length_lt
      _ ≤ x.length := length_pastMinus_le x

theorem Digits.exists_cons (h : Digits x t) : ∃ c y, x = c :: y ∧ isDecimal c = true := by
  cases h with
  | run hc => exact ⟨_, _, rfl, hc⟩

theorem Numeral.exists_cons (h : Numeral x t) :
    ∃ c y, x = c :: y ∧ startsNumeral c = true := by
  have hwhole : ∃ y, Whole (pastMinus x) y := by
    cases h with
    | parts hwhole _ _ => exact ⟨_, hwhole⟩
  obtain ⟨y, hwhole⟩ := hwhole
  have hdigit : ∃ c z, pastMinus x = c :: z ∧ isDecimal c = true := by
    generalize pastMinus x = z at hwhole
    cases hwhole with
    | zero _ => exact ⟨_, _, rfl, by decide⟩
    | digits _ hdigits => exact hdigits.exists_cons
  by_cases hminus : x.head? = some (some '-')
  · obtain ⟨z, rfl⟩ := List.head?_eq_some_iff.mp hminus
    exact ⟨_, _, rfl, by decide⟩
  · obtain ⟨c, z, hx, hc⟩ := hdigit
    rw [pastMinus_eq_self hminus] at hx
    exact ⟨c, z, hx, by rw [startsNumeral, hc, Bool.or_true]⟩

end GrantProbe.Json
