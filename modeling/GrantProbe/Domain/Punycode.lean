/-!
# Letters beyond ASCII in ASCII labels

A label is written as its ASCII characters, a hyphen, and the other characters as a sequence of numbers: each
tells how many steps there are from one insertion to the next, counting every place of every code point. A
number is written in digits of varying base, the last one first.

* `numberDigits`, `readNumber?`: numbers;
* `encode`: a label as ASCII; `decode?`: an ASCII text as a label.
-/

namespace GrantProbe.Domain

/-! ## Numbers -/

/-- The number of digits. -/
def digitBase : Nat := 36

/-- The digit of a value below `digitBase`. -/
def digitOf (d : Nat) : Char := if d < 26 then Char.ofNat (0x61 + d) else Char.ofNat (0x30 + (d - 26))

/-- The value of a digit. -/
def digitValue? (c : Char) : Option Nat :=
  let n := c.toNat
  if 0x61 ≤ n ∧ n ≤ 0x7A then some (n - 0x61)
  else if 0x41 ≤ n ∧ n ≤ 0x5A then some (n - 0x41)
  else if 0x30 ≤ n ∧ n ≤ 0x39 then some (n - 0x30 + 26)
  else none

/-- The value below which a digit at a place is the last one. -/
def threshold (place bias : Nat) : Nat :=
  if place ≤ bias then 1 else if bias + 26 ≤ place then 26 else place - bias

theorem one_le_threshold (place bias : Nat) : 1 ≤ threshold place bias := by
  unfold threshold
  split
  · omega
  · split <;> omega

/-- What is left of a number behind a digit that is not the last one. -/
def afterDigit (bias place n : Nat) : Nat :=
  (n - threshold place bias) / (digitBase - threshold place bias)

theorem afterDigit_lt {bias place n : Nat} (h : ¬ n < threshold place bias) : afterDigit bias place n < n := by
  have h1 := one_le_threshold place bias
  have : afterDigit bias place n ≤ n - threshold place bias := Nat.div_le_self _ _
  omega

/-- **The digits of a number,** from a place on. -/
def numberDigits (bias place n : Nat) : List Char :=
  if n < threshold place bias then [digitOf n]
  else
    digitOf (threshold place bias + (n - threshold place bias) % (digitBase - threshold place bias)) ::
      numberDigits bias (place + digitBase) (afterDigit bias place n)
termination_by n
decreasing_by exact afterDigit_lt (by assumption)

/-- The bias for steps of a size. -/
def settledBias (step bias : Nat) : Nat :=
  if step ≤ 455 then bias + digitBase * step / (step + 38) else settledBias (step / 35) (bias + digitBase)
termination_by step
decreasing_by exact Nat.div_lt_self (by omega) (by omega)

/-- **The bias after a number,** which was the first or not, when there are `count` characters. -/
def adapted (delta count : Nat) (isFirst : Bool) : Nat :=
  let step := if isFirst then delta / 700 else delta / 2
  settledBias (step + step / count) 0

/-! ## Writing -/

/-- The bias at the beginning. -/
def startBias : Nat := 72

/-- The first code point that is written as a number. -/
def startPoint : Nat := 128

/-- **How far a label has been written.** -/
structure Writing where
  written : List Char
  delta : Nat
  bias : Nat
  /-- The characters that have been written. -/
  count : Nat

/-- Passes one character, when the characters below `point` are written and those equal to it are due. -/
def Writing.pass (basic point : Nat) (w : Writing) (c : Char) : Writing :=
  if c.toNat < point then { w with delta := w.delta + 1 }
  else if c.toNat = point then
    ⟨w.written ++ numberDigits w.bias digitBase w.delta, 0,
      adapted w.delta (w.count + 1) (w.count == basic), w.count + 1⟩
  else w

/-- Writes the characters with the code points of a list, which is in order and begins at `start` or above. -/
def Writing.points (label : List Char) (basic : Nat) : List Nat → (start : Nat) → Writing → Writing
  | [], _, w => w
  | point :: rest, start, w =>
    let due := { w with delta := w.delta + (point - start) * (w.count + 1) }
    let done := label.foldl (Writing.pass basic point) due
    Writing.points label basic rest (point + 1) { done with delta := done.delta + 1 }

/-- A number in its place in a list in order, once. -/
def insertOnce (n : Nat) : List Nat → List Nat
  | [] => [n]
  | m :: rest => if n < m then n :: m :: rest else if n = m then m :: rest else m :: insertOnce n rest

/-- A character of ASCII. -/
def isAscii (c : Char) : Bool := c.toNat < 0x80

/-- **A label as ASCII.** -/
def encode (label : List Char) : List Char :=
  let basic := label.filter isAscii
  let points := (label.filter (! isAscii ·)).foldr (fun c l => insertOnce c.toNat l) []
  let head := if basic.isEmpty then [] else basic ++ ['-']
  (Writing.points label basic.length points startPoint ⟨head, 0, startBias, basic.length⟩).written

/-! ## Reading -/

/-- A number at the front, added to `n`, and the rest. -/
def readNumber? (bias : Nat) : (place weight n : Nat) → List Char → Option (Nat × List Char)
  | _, _, _, [] => none
  | place, weight, n, c :: rest =>
    match digitValue? c with
    | none => none
    | some d =>
      if d < threshold place bias then some (n + d * weight, rest)
      else
        readNumber? bias (place + digitBase) (weight * (digitBase - threshold place bias)) (n + d * weight) rest

theorem length_of_readNumber? {bias place weight n m : Nat} {s rest : List Char}
    (h : readNumber? bias place weight n s = some (m, rest)) : rest.length < s.length := by
  induction s generalizing place weight n with
  | nil => simp [readNumber?] at h
  | cons c tail ih =>
    unfold readNumber? at h
    split at h
    · simp at h
    · split at h
      · simp only [Option.some.injEq, Prod.mk.injEq] at h
        simp [← h.2]
      · have := ih h
        simp only [List.length_cons]
        omega

/-- The greatest code point. -/
def maxPoint : Nat := 0x10FFFF

/-- Inserts characters into a label, the next one at least at `place` and of code point `point`. -/
def insertAll (bias point place : Nat) (label : List Char) (s : List Char) : Option (List Char) :=
  match s with
  | [] => some label
  | c :: tail =>
    match _h : readNumber? bias digitBase 1 place (c :: tail) with
    | none => none
    | some (n, rest) =>
      let count := label.length + 1
      let next := point + n / count
      if next.isValidChar ∧ next ≤ maxPoint then
        insertAll (adapted (n - place) count (place == 0)) next (n % count + 1)
          (label.insertIdx (n % count) (Char.ofNat next)) rest
      else none
termination_by s.length
decreasing_by exact length_of_readNumber? (by assumption)

/-- **The label that an ASCII text stands for.** What stands before the last hyphen is ASCII; there has to be
something. -/
def decode? (s : List Char) : Option (List Char) :=
  match s.reverse.span (· != '-') with
  | (tail, _ :: c :: basic) => insertAll startBias startPoint 0 (c :: basic).reverse tail.reverse
  | _ => insertAll startBias startPoint 0 [] s

end GrantProbe.Domain
