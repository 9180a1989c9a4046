import GrantProbe.Json.Cursor

/-!
# Reading texts

What stands between double quotes. Characters beyond the sixteen-bit ones may be written as two escapes, the
halves of a surrogate pair; a half on its own is an error.

* `Reader.hexCode`: the four digits of an escape;
* `Reader.quotedText`: a text;
* `Reader.passText`: a text that is not looked at, in which halves may stand alone.
-/

namespace GrantProbe.Json

/-- The value of a hexadecimal digit. -/
def hexValue? : Option Char → Option Nat
  | some c =>
    if '0' ≤ c ∧ c ≤ '9' then some (c.toNat - 48)
    else if 'a' ≤ c ∧ c ≤ 'f' then some (c.toNat - 87)
    else if 'A' ≤ c ∧ c ≤ 'F' then some (c.toNat - 55)
    else none
  | none => none

/-- The number of four hexadecimal digits. -/
def hexNumber? (digits : List (Option Char)) : Option Nat :=
  digits.foldl (fun n? c => n?.bind fun n => (hexValue? c).map (n * 16 + ·)) (some 0)

/-- The number of bytes of a document. -/
def byteCount (input : Input) : Nat :=
  input.foldr (fun c n => (match c with | some c => c.utf8Size | none => 1) + n) 0

/-- The character of an escape after a backslash, if it is one of a single letter. -/
def namedEscape? : Option Char → Option Char
  | some '"' => some '"'
  | some '\\' => some '\\'
  | some '/' => some '/'
  | some 'b' => some '\x08'
  | some 'f' => some '\x0c'
  | some 'n' => some '\n'
  | some 'r' => some '\r'
  | some 't' => some '\t'
  | _ => none

/-- The first half of a surrogate pair. -/
def isHighHalf (n : Nat) : Bool := 0xD800 ≤ n && n ≤ 0xDBFF

/-- The second half of a surrogate pair. -/
def isLowHalf (n : Nat) : Bool := 0xDC00 ≤ n && n ≤ 0xDFFF

/-- The character of a surrogate pair. -/
def pairChar (high low : Nat) : Char :=
  Char.ofNat (0x10000 + (high - 0xD800) * 0x400 + (low - 0xDC00))

namespace Reader

/-- **Four hexadecimal digits.** -/
def hexCode : Reader Nat := fun input =>
  if byteCount (input.take 4) < 4 then .error (.unfinished .string)
  else
    match hexNumber? (input.take 4) with
    | some n => if (input.take 4).length = 4 then .ok (n, input.drop 4) else .error .invalidEscape
    | none => .error .invalidEscape

/-- Takes a place of a text; the text may not end here. -/
def textPlace : Reader (Option Char) := do
  match ← peek with
  | none => fail (.unfinished .string)
  | some c => advance *> pure c

/-- The second half of a pair, after the first. -/
def secondHalf (high : Nat) : Reader Char := do
  if (← textPlace) ≠ some '\\' then fail .unfinishedSurrogate
  else if (← textPlace) ≠ some 'u' then fail .unfinishedSurrogate
  else
    let low ← hexCode
    if isLowHalf low then pure (pairChar high low) else fail .loneSurrogate

/-- The character of an escape, after the backslash. -/
def escapedChar : Reader Char := do
  let c ← textPlace
  match namedEscape? c with
  | some d => pure d
  | none =>
    if c = some 'u' then
      let n ← hexCode
      if isLowHalf n then fail .loneSurrogate
      else if isHighHalf n then secondHalf n
      else pure (Char.ofNat n)
    else fail .invalidEscape

/-- The rest of a text, up to its closing quote. -/
def textRest : (fuel : Nat) → Reader (List (Option Char))
  | 0 => fail (.unfinished .string)
  | fuel + 1 => do
    match ← textPlace with
    | some '"' => pure []
    | some '\\' =>
      let c ← escapedChar
      return some c :: (← textRest fuel)
    | c =>
      if c.any fun c => c.toNat < 0x20 then fail .controlCharacter
      else return c :: (← textRest fuel)

/-- The text of places that are all characters. -/
def charsOf : List (Option Char) → Option (List Char)
  | [] => some []
  | none :: _ => none
  | some c :: rest => (charsOf rest).map (c :: ·)

/-- **A text,** from its opening quote on. -/
def quotedText : Reader String := do
  advance
  let places ← textRest ((← remaining) + 1)
  match charsOf places with
  | some cs => pure (String.ofList cs)
  | none => fail .invalidCharacter

/-- The rest of a text that is not looked at. -/
def passTextRest : (fuel : Nat) → Reader Unit
  | 0 => fail (.unfinished .string)
  | fuel + 1 => do
    match ← textPlace with
    | some '"' => pure ()
    | some '\\' =>
      let c ← textPlace
      match namedEscape? c with
      | some _ => passTextRest fuel
      | none =>
        if c = some 'u' then
          let _ ← hexCode
          passTextRest fuel
        else fail .invalidEscape
    | c =>
      if c.any fun c => c.toNat < 0x20 then fail .controlCharacter
      else passTextRest fuel

/-- **A text that is not looked at,** from its opening quote on. -/
def passText : Reader Unit := do
  advance
  passTextRest ((← remaining) + 1)

end Reader

end GrantProbe.Json
