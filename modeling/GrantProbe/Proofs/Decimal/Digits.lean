import Mathlib.Algebra.Order.Group.Nat
import Mathlib.Data.Nat.Digits.Defs
import GrantProbe.Decimal.Layout

/-!
# The digits of a number that is not zero

Neither a whole number nor the shortest decimal of a float begins with a zero, zero apart.

* `head_digitChars_ne_zero`: the first digit of a whole number;
* `reaches_leadingExponent`: the exponent of the leading digit is not too great;
* `Dyadic.shortest_pos`: the digits of the shortest decimal are not all zero.
-/

namespace GrantProbe.Decimal

/-! ## Whole numbers -/

theorem isDigit_of_mem_digitChars {n : Nat} {c : Char} (h : c ∈ digitChars n) : c.isDigit = true :=
  Nat.isDigit_of_mem_toDigits (by decide) (by decide) h

theorem digitChars_ne_nil (n : Nat) : digitChars n ≠ [] := Nat.toDigits_ne_nil

/-- **No leading zero.** The recursion is that of dividing by ten. -/
theorem head_digitChars_ne_zero {n : Nat} (h : 0 < n) : (digitChars n).head? ≠ some '0' := by
  induction n using Nat.strongRecOn with
  | _ n ih =>
    rw [digitChars]
    by_cases hn : n < 10
    · rw [Nat.toDigits_of_lt_base hn, List.head?_cons]
      intro hzero
      exact absurd (Nat.digitChar_eq_zero.mp (Option.some.inj hzero)) (by omega)
    · obtain ⟨c, cs, hcs⟩ := List.exists_cons_of_ne_nil (digitChars_ne_nil (n / 10))
      have hhead := ih (n / 10) (by omega) (by omega)
      rw [hcs] at hhead
      rw [Nat.toDigits_of_base_le (by decide) (Nat.le_of_not_lt hn)]
      rw [digitChars] at hcs
      rwa [hcs]

theorem tenTo_length_le {n : Nat} (h : 0 < n) : tenTo ((digitChars n).length - 1) ≤ n := by
  have hlength : 0 < (digitChars n).length := Nat.length_toDigits_pos
  rcases Nat.eq_zero_or_pos ((digitChars n).length - 1) with hone | hmore
  · rw [hone]
    exact h
  · refine Nat.le_of_not_lt fun hlt => ?_
    have hshort := (Nat.length_toDigits_le_iff (by decide) hmore).mpr hlt
    exact absurd hshort (Nat.not_le_of_lt (Nat.sub_lt hlength (by decide)))

theorem lt_tenTo_length (n : Nat) : n < tenTo (digitChars n).length :=
  (Nat.length_toDigits_le_iff (by decide) Nat.length_toDigits_pos).mp (Nat.le_refl _)

/-! ## Shortest decimals -/

theorem tenTo_mono {m n : Nat} (h : m ≤ n) : tenTo m ≤ tenTo n :=
  Nat.pow_le_pow_right (by decide) h

/-- **The fraction reaches a power of ten.** -/
def Reaches (num den : Nat) (scale : Int) : Prop :=
  den * tenTo scale.toNat ≤ num * tenTo (-scale).toNat

theorem Reaches.mono {num den : Nat} {scale scale' : Int} (h : Reaches num den scale)
    (hle : scale' ≤ scale) : Reaches num den scale' :=
  calc den * tenTo scale'.toNat ≤ den * tenTo scale.toNat :=
        Nat.mul_le_mul_left _ (tenTo_mono (by omega))
    _ ≤ num * tenTo (-scale).toNat := h
    _ ≤ num * tenTo (-scale').toNat := Nat.mul_le_mul_left _ (tenTo_mono (by omega))

theorem Reaches.gridPosition_pos {num den : Nat} {scale : Int} (h : Reaches num den scale)
    (hden : 0 < den) : 0 < (gridPosition num den scale).1 :=
  Nat.div_pos h (Nat.mul_pos hden (tenTo_pos _))

/-- **The leading exponent** is one that the fraction reaches. -/
theorem reaches_leadingExponent {num den : Nat} (hnum : 0 < num) (hden : 0 < den) :
    Reaches num den (leadingExponent num den) := by
  unfold leadingExponent Reaches
  split
  · next hle =>
    -- the fraction is one or more: its whole part has that many digits
    have hwhole := tenTo_length_le (Nat.div_pos hle hden)
    rw [digitChars] at hwhole
    have hlength : 0 < (Nat.toDigits 10 (num / den)).length := Nat.length_toDigits_pos
    obtain ⟨places, hplaces⟩ := Nat.exists_eq_succ_of_ne_zero hlength.ne'
    rw [hplaces] at hwhole ⊢
    have hup : (((places.succ : Nat) : Int) - 1).toNat = places := by omega
    rw [hup]
    calc den * tenTo places ≤ den * (num / den) := Nat.mul_le_mul_left _ hwhole
      _ ≤ num := Nat.mul_div_le num den
      _ ≤ _ := Nat.le_mul_of_pos_right _ (tenTo_pos _)
  · next hlt =>
    -- it is less than one: its inverse has that many digits before the point
    have hinverse := lt_tenTo_length (den / num)
    rw [digitChars, Nat.div_lt_iff_lt_mul hnum] at hinverse
    have hlength : 0 < (Nat.toDigits 10 (den / num)).length := Nat.length_toDigits_pos
    obtain ⟨places, hplaces⟩ := Nat.exists_eq_succ_of_ne_zero hlength.ne'
    simp only [hplaces] at hinverse ⊢
    split
    · next heq =>
      have hdown : (-(-(((places.succ : Nat) : Int) - 1))).toNat = places := by omega
      have hup : (-(((places.succ : Nat) : Int) - 1)).toNat = 0 := by omega
      rw [hdown, hup, tenTo_zero, Nat.mul_one]
      exact Nat.le_of_eq heq.symm
    · have hdown : (-(-((places.succ : Nat) : Int))).toNat = places.succ := by omega
      have hup : (-((places.succ : Nat) : Int)).toNat = 0 := by omega
      rw [hdown, hup, tenTo_zero, Nat.mul_one, Nat.mul_comm]
      exact Nat.le_of_lt hinverse

theorem Dyadic.numerator_pos {d : Dyadic} (h : d.mantissa ≠ 0) : 0 < d.numerator :=
  Nat.mul_pos (Nat.pos_of_ne_zero h) (twoTo_pos _)

theorem Dyadic.denominator_pos (d : Dyadic) : 0 < d.denominator := twoTo_pos _

/-- Digits on a grid are not zero: the lower neighbour counts only if it is not. -/
theorem Dyadic.pos_of_onGrid? {d : Dyadic} {scale : Int} {digits : Nat}
    (h : d.onGrid? scale = some digits) : 0 < digits := by
  rcases hgrid : gridPosition d.numerator d.denominator scale with ⟨below, rest, unit⟩
  have hlow (hok : (decide (0 < below) && d.encloses below scale) = true) : 0 < below := by
    simp only [Bool.and_eq_true, decide_eq_true_eq] at hok
    exact hok.1
  simp only [onGrid?, hgrid] at h
  split at h
  · next hok _ =>
    have hbelow := hlow hok
    split at h
    · exact Option.some.inj h ▸ hbelow
    · split at h
      · exact Option.some.inj h ▸ Nat.succ_pos _
      · split at h
        · exact Option.some.inj h ▸ hbelow
        · exact Option.some.inj h ▸ Nat.succ_pos _
  · next hok _ => exact Option.some.inj h ▸ hlow hok
  · exact Option.some.inj h ▸ Nat.succ_pos _
  · cases h

theorem Dyadic.shortestFrom_pos {d : Dyadic} {leading : Int}
    (h : Reaches d.numerator d.denominator leading) (more places : Nat) (hplaces : 0 < places) :
    0 < (d.shortestFrom leading more places).1 := by
  induction more generalizing places with
  | zero => exact (h.mono (by omega)).gridPosition_pos d.denominator_pos
  | succ more ih =>
    rw [shortestFrom]
    split
    · next digits hdigits =>
      split
      · exact Nat.one_pos
      · exact pos_of_onGrid? hdigits
    · exact ih (places + 1) (Nat.succ_pos _)

/-- **The shortest decimal of a value that is not zero** is not zero. -/
theorem Dyadic.shortest_pos {d : Dyadic} (h : d.mantissa ≠ 0) : 0 < d.shortest.1 :=
  shortestFrom_pos (reaches_leadingExponent (numerator_pos h) d.denominator_pos) 17 1 Nat.one_pos

end GrantProbe.Decimal
