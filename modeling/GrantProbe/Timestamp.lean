import GrantProbe.Text.Blank

/-!
# Points in time

A point in time is written as a date, a time of day and its distance from universal time, as in
`2024-02-29T12:30:00.5+01:00`. Blanks may stand before a number and before a mark; a number may have fewer
digits than usual, and a year more if it has a sign.

* `Timestamp`, `TimestampError`: points in time, and why a text is none;
* `Timestamp.parse`: the reader; `Timestamp.checked`: what the calendar allows.
-/

namespace GrantProbe

/-- **A point in time:** a date of the Gregorian calendar, a time of day, and the seconds by which its clock is
ahead of universal time. A minute may have a leap second. -/
structure Timestamp where
  year : Int
  month : Nat
  day : Nat
  hour : Nat
  minute : Nat
  second : Nat
  nanos : Nat
  ahead : Int
  deriving DecidableEq, Repr, Inhabited

/-- **Why a text is no point in time.** -/
inductive TimestampError where
  | outOfRange
  | impossible
  | invalid
  | tooShort
  | tooLong
  deriving DecidableEq, Repr, Inhabited

/-- The wording of an error. -/
def TimestampError.message : TimestampError → String
  | outOfRange => "input is out of range"
  | impossible => "no possible date and time matching input"
  | invalid => "input contains invalid characters"
  | tooShort => "premature end of input"
  | tooLong => "trailing input"

namespace Timestamp

/-! ## The calendar -/

/-- The seconds of a day. -/
def secondsPerDay : Int := 86400

/-- A year with a leap day. -/
def isLeap (year : Int) : Bool := year % 4 == 0 && (year % 100 != 0 || year % 400 == 0)

/-- The days of a month. -/
def daysIn (year : Int) (month : Nat) : Nat :=
  if month = 2 then if isLeap year then 29 else 28
  else if month = 4 ∨ month = 6 ∨ month = 9 ∨ month = 11 then 30
  else 31

/-- The first and the last year of the calendar. -/
def firstYear : Int := -262143

def lastYear : Int := 262142

/-- The date is one of the calendar. -/
def isDate (t : Timestamp) : Bool :=
  firstYear ≤ t.year && t.year ≤ lastYear && 1 ≤ t.month && t.month ≤ 12 && 1 ≤ t.day &&
    t.day ≤ daysIn t.year t.month

/-- The second of the day in universal time, below zero on the day before. A leap second counts as the one
before it. -/
def secondOfDay (t : Timestamp) : Int :=
  (t.hour * 3600 + t.minute * 60 + min t.second 59 : Nat) - t.ahead

/-- The date in universal time lies before the first or after the last of the calendar. -/
def leavesCalendar (t : Timestamp) : Bool :=
  (t.secondOfDay < 0 && t.year == firstYear && t.month == 1 && t.day == 1) ||
    (secondsPerDay ≤ t.secondOfDay && t.year == lastYear && t.month == 12 && t.day == 31)

/-- **A point in time that the calendar allows.** -/
def checked (t : Timestamp) : Except TimestampError Timestamp :=
  if ¬ t.isDate then .error .outOfRange
  else if secondsPerDay ≤ t.ahead.natAbs then .error .outOfRange
  else if t.leavesCalendar then .error .impossible
  else .ok t

/-! ## Reading -/

/-- A computation that takes characters from the front of a text. -/
abbrev Scan (α : Type) : Type := StateT (List Char) (Except TimestampError) α

/-- Stops with an error. -/
def stop {α : Type} (e : TimestampError) : Scan α := fun _ => .error e

/-- Leaves out blanks. -/
def skipBlanks : Scan Unit := fun s => .ok ((), s.dropWhile Text.isBlank)

/-- The characters that are left. -/
def rest : Scan (List Char) := fun s => .ok (s, s)

/-- Takes a character that satisfies a condition. -/
def charThat (p : Char → Bool) : Scan Unit := fun s =>
  match s with
  | [] => .error .tooShort
  | c :: tail => if p c then .ok ((), tail) else .error .invalid

/-- The number that decimal digits stand for. -/
def valueOf (digits : List Char) : Nat := digits.foldl (fun n c => 10 * n + (c.toNat - 48)) 0

/-- The digits at the front, at least one and at most `width`. -/
def digits (width : Nat) : Scan (List Char) := fun s =>
  let found := (s.take width).takeWhile Char.isDigit
  if found.isEmpty then .error (if s.isEmpty then .tooShort else .invalid)
  else .ok (found, s.drop found.length)

/-- A number of two digits between two bounds, after blanks. -/
def part (least greatest : Nat) : Scan Nat := do
  skipBlanks
  let n := valueOf (← digits 2)
  if n < least ∨ greatest < n then stop .outOfRange else pure n

/-- A mark, after blanks. -/
def mark (c : Char) : Scan Unit := do
  skipBlanks
  charThat (· == c)

/-- The year: four digits, or any number of them after a sign. -/
def yearPart : Scan Int := do
  skipBlanks
  let s ← rest
  let year : Int ←
    match s.head? with
    | some '-' => do
      charThat fun _ => true
      pure (-(valueOf (← digits s.length) : Int))
    | some '+' => do
      charThat fun _ => true
      pure (valueOf (← digits s.length) : Int)
    | _ => do pure (valueOf (← digits 4) : Int)
  if year < -2147483648 ∨ 2147483647 < year then stop .outOfRange else pure year

/-- The fraction of a second, in nanoseconds. Digits after the ninth are passed over. -/
def fraction : Scan Nat := do
  if (← rest).head? = some '.' then
    charThat fun _ => true
    let found ← digits 9
    modify fun s => s.dropWhile Char.isDigit
    pure (valueOf (found ++ List.replicate (9 - found.length) '0'))
  else pure 0

/-- Two places that have to be digits, of which the first is at most `most`. -/
def twoDigits (most : Char) : Scan Nat := do
  match ← rest with
  | [] => stop .tooShort
  | [c] => stop (if c.utf8Size = 1 then .tooShort else .invalid)
  | a :: b :: tail =>
    if ¬ (a.isDigit ∧ b.isDigit) then stop .invalid
    else if most < a then stop .outOfRange
    else
      set tail
      pure (valueOf [a, b])

/-- The sign of a distance: whether it is a minus. -/
def sign : Scan Bool := do
  let s ← rest
  charThat fun c => c == '+' || c == '-' || c == '\u2212'
  pure (s.head? != some '+')

/-- The distance from universal time, in seconds. -/
def distance : Scan Int := do
  let s ← rest
  if s.head? = some 'Z' ∨ s.head? = some 'z' then
    set s.tail
    pure 0
  else if (s.take 3).map Char.toUpper = ['U', 'T', 'C'] then
    set (s.drop 3)
    pure 0
  else
    let isBehind ← sign
    let hours ← twoDigits '9'
    modify fun s => s.dropWhile fun c => c == ':' || Text.isBlank c
    let minutes ← twoDigits '5'
    let seconds : Int := (hours * 3600 + minutes * 60 : Nat)
    pure (if isBehind then -seconds else seconds)

/-- The parts of a point in time. -/
def parts : Scan Timestamp := do
  let year ← yearPart
  mark '-'
  let month ← part 1 12
  mark '-'
  let day ← part 1 31
  charThat fun c => c == 't' || c == 'T' || c == ' '
  let hour ← part 0 23
  mark ':'
  let minute ← part 0 59
  mark ':'
  let second ← part 0 60
  let nanos ← fraction
  skipBlanks
  let ahead ← distance
  return ⟨year, month, day, hour, minute, second, nanos, ahead⟩

/-- **The point in time that a text stands for.** -/
def parse (s : String) : Except TimestampError Timestamp :=
  match parts s.toList with
  | .error e => .error e
  | .ok (t, tail) => if tail.all Text.isBlank then t.checked else .error .tooLong

end Timestamp

end GrantProbe
