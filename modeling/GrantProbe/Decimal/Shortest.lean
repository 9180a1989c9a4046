import GrantProbe.Decimal.Binary

/-!
# Shortest decimal digits

The fewest significant digits that read back as the same `Float`; among those of that length, the ones
nearest to the value, ties to the even digit.

* `Dyadic.encloses`: a decimal reads back as the value;
* `Dyadic.shortest`: the digits and the power of ten of the last one.
-/

namespace GrantProbe.Decimal

/-- A decimal `digits · 10 ^ scale` as a fraction. -/
def decimalFraction (digits : Nat) (scale : Int) : Nat × Nat :=
  (digits * tenTo scale.toNat, tenTo (-scale).toNat)

/-- Four times the lower end of the interval of reals that round to `d`, in units of
`2 ^ (exponent - 2)`: half a unit below the mantissa, or a quarter where the spacing halves. -/
def Dyadic.lowerQuarters (d : Dyadic) : Nat :=
  if d.mantissa = twoTo 52 ∧ d.exponent ≠ -1074 then 4 * d.mantissa - 1 else 4 * d.mantissa - 2

/-- Four times the upper end of that interval. -/
def Dyadic.upperQuarters (d : Dyadic) : Nat := 4 * d.mantissa + 2

/-- **Reading back.** The decimal lies in the interval that rounds to `d`; its ends belong to it when the
mantissa is even. -/
def Dyadic.encloses (d : Dyadic) (digits : Nat) (scale : Int) : Bool :=
  let f := decimalFraction digits scale
  let e := d.exponent - 2
  let value := f.1 * twoTo (-e).toNat
  let lower := d.lowerQuarters * twoTo e.toNat * f.2
  let upper := d.upperQuarters * twoTo e.toNat * f.2
  if d.mantissa % 2 = 0 then lower ≤ value && value ≤ upper
  else lower < value && value < upper

/-- The exponent of the leading decimal digit of a positive fraction. -/
def leadingExponent (num den : Nat) : Int :=
  if den ≤ num then (Nat.toDigits 10 (num / den)).length - 1
  else
    let places := (Nat.toDigits 10 (den / num)).length
    if num * tenTo (places - 1) = den then -((places : Int) - 1) else -(places : Int)

/-- The whole number of steps of `10 ^ scale` below the fraction, and what is left of it, over the
denominator that goes with it. -/
def gridPosition (num den : Nat) (scale : Int) : Nat × Nat × Nat :=
  let n := num * tenTo (-scale).toNat
  let m := den * tenTo scale.toNat
  (n / m, n % m, m)

/-- The best decimal on one grid, if one of the two neighbours of the value reads back. -/
def Dyadic.onGrid? (d : Dyadic) (scale : Int) : Option Nat :=
  let (below, rest, unit) := gridPosition d.numerator d.denominator scale
  let lowOk := 0 < below && d.encloses below scale
  let highOk := d.encloses (below + 1) scale
  match lowOk, highOk with
  | true, true =>
    if 2 * rest < unit then some below
    else if unit < 2 * rest then some (below + 1)
    else if below % 2 = 0 then some below else some (below + 1)
  | true, false => some below
  | false, true => some (below + 1)
  | false, false => none

/-- Tries grids of one digit more at a time. A neighbour that is a power of ten has one digit. -/
def Dyadic.shortestFrom (d : Dyadic) (leading : Int) : Nat → Nat → Nat × Int
  | 0, places =>
    let scale := leading - (places : Int) + 1
    ((gridPosition d.numerator d.denominator scale).1, scale)
  | more + 1, places =>
    let scale := leading - (places : Int) + 1
    match d.onGrid? scale with
    | some digits => if digits = tenTo places then (1, scale + places) else (digits, scale)
    | none => d.shortestFrom leading more (places + 1)

/-- **The shortest decimal** that reads back as a positive value: its digits and the power of ten of
the last of them. Seventeen digits always suffice. -/
def Dyadic.shortest (d : Dyadic) : Nat × Int :=
  d.shortestFrom (leadingExponent d.numerator d.denominator) 17 1

end GrantProbe.Decimal
