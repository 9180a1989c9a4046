import GrantProbe.Decimal.Power

/-!
# Binary floating-point values, exactly

A finite `Float` is a whole number times a power of two. Everything that has to be exact about floats
(their shortest decimal text, fixed places, conversion to whole nanoseconds) is computed on that form.

* `Dyadic`, `decode`: the exact form;
* `roundHalfEven`: a quotient rounded to the nearest whole number, ties to the even one.
-/

namespace GrantProbe.Decimal

/-- **A finite binary value:** `± mantissa · 2 ^ exponent`. -/
structure Dyadic where
  negative : Bool
  mantissa : Nat
  exponent : Int
  deriving DecidableEq, Repr, Inhabited

/-- What a `Float` stands for. -/
inductive FloatValue where
  | finite (d : Dyadic)
  | infinite (negative : Bool)
  | nan
  deriving DecidableEq, Repr, Inhabited

/-- The exact meaning of 64 bits: sign, eleven bits of exponent, fifty-two of fraction. -/
def ofBits (bits : Nat) : FloatValue :=
  let negative := bits / twoTo 63 % 2 == 1
  let biased : Nat := bits / twoTo 52 % twoTo 11
  let fraction : Nat := bits % twoTo 52
  if biased = 2047 then
    if fraction = 0 then .infinite negative else .nan
  else if biased = 0 then .finite ⟨negative, fraction, -1074⟩
  else .finite ⟨negative, twoTo 52 + fraction, (biased : Int) - 1075⟩

/-- The exact meaning of a `Float`. -/
def decode (x : Float) : FloatValue := ofBits x.toBits.toNat

/-- The numerator of the magnitude of a dyadic, over `Dyadic.denominator`. -/
def Dyadic.numerator (d : Dyadic) : Nat := d.mantissa * twoTo d.exponent.toNat

/-- The denominator of the magnitude of a dyadic. -/
def Dyadic.denominator (d : Dyadic) : Nat := twoTo (-d.exponent).toNat

/-- **Rounding to nearest:** `num / den` as a whole number, a tie going to the even neighbour. -/
def roundHalfEven (num den : Nat) : Nat :=
  let q := num / den
  let r := num % den
  if 2 * r < den then q
  else if den < 2 * r then q + 1
  else if q % 2 = 0 then q else q + 1

theorem roundHalfEven_one (n : Nat) : roundHalfEven n 1 = n := by
  simp [roundHalfEven, Nat.mod_one]

theorem roundHalfEven_mul (n : Nat) {den : Nat} (h : 0 < den) :
    roundHalfEven (n * den) den = n := by
  simp [roundHalfEven, Nat.mul_div_cancel n h, h]

end GrantProbe.Decimal
