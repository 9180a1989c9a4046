import GrantProbe.Decimal.Shortest

/-!
# Decimal text

How the digits of a float are laid out.

* `Layout`: the decisions of a format, as a record;
* `Layout.text`: a float under a layout, with the fewest digits that read back;
* `oneDecimal`: a quotient with one decimal place.
-/

namespace GrantProbe.Decimal

/-- **A number format.** -/
structure Layout where
  /-- The exponents of the leading digit that are written positionally. -/
  positional : Int → Bool
  /-- Whole numbers end in `.0`. -/
  wholePoint : Bool
  /-- A positive exponent carries its sign. -/
  exponentPlus : Bool
  nan : String
  infinite : String

/-- The decimal digits of a number. -/
def digitChars (n : Nat) : List Char := Nat.toDigits 10 n

/-- Digits with the point after the first `point` of them, padded with zeros on either side. -/
def Layout.position (l : Layout) (digits : List Char) (point : Int) : List Char :=
  if point ≤ 0 then ['0', '.'] ++ List.replicate (-point).toNat '0' ++ digits
  else
    let n := point.toNat
    if digits.length ≤ n then
      digits ++ List.replicate (n - digits.length) '0' ++ (if l.wholePoint then ['.', '0'] else [])
    else digits.take n ++ ['.'] ++ digits.drop n

/-- Digits in scientific notation with the given exponent of the first of them. -/
def Layout.scientific (l : Layout) (digits : List Char) (exponent : Int) : List Char :=
  let sign := if exponent < 0 then ['-'] else if l.exponentPlus then ['+'] else []
  let mantissa :=
    match digits with
    | [] => ['0']
    | [d] => [d]
    | d :: rest => d :: '.' :: rest
  mantissa ++ ['e'] ++ sign ++ digitChars exponent.natAbs

/-- The magnitude of a dyadic under a layout. -/
def Layout.magnitude (l : Layout) (d : Dyadic) : List Char :=
  if d.mantissa = 0 then if l.wholePoint then ['0', '.', '0'] else ['0']
  else
    let (n, scale) := d.shortest
    let digits := digitChars n
    let leading := scale + (digits.length : Int) - 1
    if l.positional leading then l.position digits (leading + 1) else l.scientific digits leading

/-- **A float under a layout.** -/
def Layout.text (l : Layout) (x : Float) : String :=
  match decode x with
  | .nan => l.nan
  | .infinite negative => (if negative then "-" else "") ++ l.infinite
  | .finite d => (if d.negative then "-" else "") ++ String.ofList (l.magnitude d)

/-- Floats in messages: never an exponent, and no `.0` for whole numbers. -/
def inMessages : Layout := ⟨fun _ => true, false, false, "NaN", "inf"⟩

/-- Floats in stored documents: positional from `1e-5` up to `1e16`, whole numbers with `.0`, and no
number at all for what is not finite. -/
def inDocuments : Layout := ⟨fun e => -5 ≤ e && e < 16, true, true, "null", "null"⟩

/-- A stored float; what is not finite is stored as `null`, without a sign. -/
def stored (x : Float) : String :=
  match decode x with
  | .finite _ => inDocuments.text x
  | _ => "null"

/-- **One decimal place.** The exact value of a finite float to the nearest tenth, a tie going to the
even digit. -/
def oneDecimal (x : Float) : String :=
  match decode x with
  | .finite d =>
    let tenths := roundHalfEven (10 * d.numerator) d.denominator
    (if d.negative then "-" else "") ++ toString (tenths / 10) ++ "." ++ toString (tenths % 10)
  | _ => inMessages.text x

end GrantProbe.Decimal
