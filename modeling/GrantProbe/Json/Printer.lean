import GrantProbe.Decimal.Layout
import GrantProbe.Json.Value

/-!
# Writing JSON

* `escape`: a text between double quotes;
* `compact`: a value on one line, without blanks;
* `pretty`: a value over several lines, indented by two blanks a level.
-/

namespace GrantProbe.Json

/-- A hexadecimal digit, in lower case. -/
def hexDigit (n : Nat) : Char := Nat.digitChar (n % 16)

/-- One character of a text. Quotes, backslashes and controls are escaped. -/
def escapeChar (c : Char) : List Char :=
  match c with
  | '"' => ['\\', '"']
  | '\\' => ['\\', '\\']
  | '\n' => ['\\', 'n']
  | '\r' => ['\\', 'r']
  | '\t' => ['\\', 't']
  | '\x08' => ['\\', 'b']
  | '\x0c' => ['\\', 'f']
  | c =>
    if c.toNat < 0x20 then ['\\', 'u', '0', '0', hexDigit (c.toNat / 16), hexDigit c.toNat] else [c]

/-- **A text** as it stands in a document. -/
def escape (s : String) : List Char := '"' :: s.toList.flatMap escapeChar ++ ['"']

/-- A whole number. -/
def integerChars (n : Int) : List Char :=
  if n < 0 then '-' :: Decimal.digitChars n.natAbs else Decimal.digitChars n.natAbs

/-- Parts with commas between them. -/
def joinChars (separator : List Char) : List (List Char) → List Char
  | [] => []
  | [part] => part
  | part :: rest => part ++ separator ++ joinChars separator rest

mutual

/-- The characters of a value on one line. -/
def compactChars : Json → List Char
  | null => ['n', 'u', 'l', 'l']
  | boolean true => ['t', 'r', 'u', 'e']
  | boolean false => ['f', 'a', 'l', 's', 'e']
  | integer n => integerChars n
  | float x => (Decimal.stored x).toList
  | text s => escape s
  | list items => '[' :: joinChars [','] (compactItems items) ++ [']']
  | object entries => '\x7b' :: joinChars [','] (compactEntries entries) ++ ['\x7d']

def compactItems : List Json → List (List Char)
  | [] => []
  | v :: rest => compactChars v :: compactItems rest

def compactEntries : List (String × Json) → List (List Char)
  | [] => []
  | (k, v) :: rest => (escape k ++ ':' :: compactChars v) :: compactEntries rest

end

/-- **A value on one line.** -/
def compact (v : Json) : String := String.ofList (compactChars v)

/-- The beginning of a line at a level of nesting. -/
def newLine (level : Nat) : List Char := '\n' :: List.replicate (2 * level) ' '

/-- Parts on lines of their own, between brackets. There are no lines when there are no parts. -/
def block (opening closing : Char) (level : Nat) (parts : List (List Char)) : List Char :=
  if parts.isEmpty then [opening, closing]
  else
    opening :: newLine (level + 1) ++ joinChars (',' :: newLine (level + 1)) parts ++
      newLine level ++ [closing]

mutual

/-- The characters of a value whose first line stands at a level of nesting. -/
def prettyChars (level : Nat) : Json → List Char
  | list items => block '[' ']' level (prettyItems (level + 1) items)
  | object entries => block '\x7b' '\x7d' level (prettyEntries (level + 1) entries)
  | v => compactChars v

def prettyItems (level : Nat) : List Json → List (List Char)
  | [] => []
  | v :: rest => prettyChars level v :: prettyItems level rest

def prettyEntries (level : Nat) : List (String × Json) → List (List Char)
  | [] => []
  | (k, v) :: rest => (escape k ++ ':' :: ' ' :: prettyChars level v) :: prettyEntries level rest

end

/-- **A value over several lines.** -/
def pretty (v : Json) : String := String.ofList (prettyChars 0 v)

end GrantProbe.Json
