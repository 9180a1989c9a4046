import GrantProbe.Json.Cursor
import GrantProbe.Json.Value

/-!
# Reading numbers

A number without a point or exponent that fits in 64 bits is a whole number. Any other is a float, from as
many leading digits as fit in 64 bits, scaled by one power of ten at a time; so the result is not always the
nearest float.

* `scaled`: digits and an exponent as a float;
* `Reader.number`: a number, as one of the two.
-/

namespace GrantProbe.Json

/-- **A number as it is read.** Negative zero is a float. -/
inductive Number where
  | integer (n : Int)
  | float (x : Float)
  deriving Repr, Inhabited

/-- The greatest whole number of 64 bits. -/
def maxNatural : Nat := Decimal.twoTo 64 - 1

/-- The greatest exponent that is read digit by digit. -/
def maxExponent : Nat := Decimal.twoTo 31 - 1

/-- The greatest power of ten among the floats. -/
def maxPower : Nat := 308

/-- A power of ten, as the nearest float. -/
def powerOfTen (n : Nat) : Float := Float.ofScientific 1 false n

/-- A float divided by a power of ten, in steps that are floats; zero is not divided further. -/
def dividedBy (x : Float) (n : Nat) : Float :=
  if n ≤ maxPower then x / powerOfTen n
  else if x == 0.0 then x
  else dividedBy (x / powerOfTen maxPower) (n - maxPower)
termination_by n
decreasing_by simp only [maxPower] at *; omega

/-- **A scaled float:** the nearest float of the digits, times a power of ten. -/
def scaled (negative : Bool) (digits : Nat) (exponent : Int) : Except ReadError Float :=
  let x := floatOfNat digits
  let signed (x : Float) := if negative then -x else x
  if exponent < 0 then .ok (signed (dividedBy x exponent.natAbs))
  else if exponent.natAbs ≤ maxPower then
    let y := x * powerOfTen exponent.natAbs
    if y.isInf then .error .numberTooLarge else .ok (signed y)
  else if x == 0.0 then .ok (signed x)
  else .error .numberTooLarge

/-- The value of a decimal digit. -/
def digit? : Option Char → Option Nat
  | some c => if '0' ≤ c ∧ c ≤ '9' then some (c.toNat - 48) else none
  | none => none

/-- One more digit behind a number, unless the result exceeds a bound. -/
def extend? (bound n d : Nat) : Option Nat :=
  if n * 10 + d ≤ bound then some (n * 10 + d) else none

/-- **Digits behind a number,** as long as it does not exceed a bound: the number, how many digits there
were, and the rest. -/
def takeDigits (bound n : Nat) (taken : Nat) : Input → Nat × Nat × Input
  | [] => (n, taken, [])
  | c :: rest =>
    match (digit? c).bind (extend? bound n) with
    | some m => takeDigits bound m (taken + 1) rest
    | none => (n, taken, c :: rest)

/-- How many digits stand at the front, and the rest. -/
def countDigits (taken : Nat) : Input → Nat × Input
  | [] => (taken, [])
  | c :: rest => if (digit? c).isSome then countDigits (taken + 1) rest else (taken, c :: rest)

/-- An `e` of either case. -/
def isExponentMark (c : Option Char) : Bool := c == some 'e' || c == some 'E'

namespace Reader

/-- Digits behind a number, and how many there were. -/
def digits (bound n : Nat) : Reader (Nat × Nat) := fun input =>
  let (m, taken, rest) := takeDigits bound n 0 input
  .ok ((m, taken), rest)

/-- The number of digits passed over. -/
def passDigits : Reader Nat := fun input =>
  let (taken, rest) := countDigits 0 input
  .ok (taken, rest)

/-- Whether a digit comes next. -/
def atDigit : Reader Bool := do return ((← peek).bind digit?).isSome

/-- A result that may be an error. -/
def check {α : Type} : Except ReadError α → Reader α
  | .ok a => pure a
  | .error e => fail e

/-- What a missing digit is: the end of the document, or an error in a number. -/
def digitMissing {α : Type} : Reader α := do
  match ← peek with
  | none => fail (.unfinished .value)
  | some _ => fail .invalidNumber

/-- The sign of an exponent: whether it is a minus. -/
def exponentSign : Reader Bool := do
  match ← peek with
  | some (some '+') => advance; pure false
  | some (some '-') => advance; pure true
  | _ => pure false

/-- An exponent, behind digits that are scaled by `exponent` already. -/
def exponentPart (negative : Bool) (significand : Nat) (exponent : Int) : Reader Float := do
  advance
  let down ← exponentSign
  let (n, taken) ← digits maxExponent 0
  if taken = 0 then digitMissing
  else if ← atDigit then
    if significand ≠ 0 ∧ ¬ down then fail .numberTooLarge
    else
      let _ ← passDigits
      pure (if negative then -0.0 else 0.0)
  else check (scaled negative significand (if down then exponent - n else exponent + n))

/-- What follows the digits of a float: an exponent, or nothing. -/
def afterDigits (negative : Bool) (significand : Nat) (exponent : Int) : Reader Float := do
  match ← peek with
  | some c =>
    if isExponentMark c then exponentPart negative significand exponent
    else check (scaled negative significand exponent)
  | none => check (scaled negative significand exponent)

/-- A point and the digits after it. Digits that no longer fit are passed over. -/
def fractionPart (negative : Bool) (significand : Nat) (exponent : Int) : Reader Float := do
  advance
  let (n, taken) ← digits maxNatural significand
  if ← atDigit then
    let _ ← passDigits
    afterDigits negative n (exponent - taken)
  else if taken = 0 then digitMissing
  else afterDigits negative n (exponent - taken)

/-- What follows the digits before the point, of which `more` did not fit. -/
def afterWhole (negative : Bool) (significand more : Nat) : Reader Float := do
  match ← peek with
  | some (some '.') => fractionPart negative significand more
  | _ => afterDigits negative significand more

/-- A whole number whose digits fit, and what follows them. -/
def afterSmall (negative : Bool) (significand : Nat) : Reader Number := do
  let next ← peek
  if next = some (some '.') ∨ next = some (some 'e') ∨ next = some (some 'E') then
    return .float (← afterWhole negative significand 0)
  else if ¬ negative then return .integer significand
  else if significand = 0 ∨ Decimal.twoTo 63 < significand then return .float (-floatOfNat significand)
  else return .integer (-(significand : Int))

/-- A number without its sign. -/
def unsigned (negative : Bool) : Reader Number := do
  match ← peek with
  | none => fail (.unfinished .value)
  | some (some '0') =>
    advance
    if ← atDigit then fail .invalidNumber else afterSmall negative 0
  | some _ =>
    let (n, taken) ← digits maxNatural 0
    if taken = 0 then fail .invalidNumber
    else if ← atDigit then
      let more ← passDigits
      return .float (← afterWhole negative n more)
    else afterSmall negative n

/-- **A number.** -/
def number : Reader Number := do
  if (← peek) = some (some '-') then
    advance
    unsigned true
  else unsigned false

end Reader

end GrantProbe.Json
