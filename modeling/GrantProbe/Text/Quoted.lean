import GrantProbe.Text.Case
import GrantProbe.Text.PrintTable

/-!
# Quoted text

The form in which a message shows a string so that every character can be seen: between double quotes,
with named escapes for the common controls and `\u{…}` for whatever has no visible form of its own.

* `quoted`: a string; `quotedPath`: the path of a file;
* `quotedList`: a list of strings; `quotedOption`: a string that may be absent.
-/

namespace GrantProbe.Text

/-- Lower-case hexadecimal digits of a number, without leading zeros. -/
def hexDigits (n : Nat) : List Char :=
  Nat.toDigits 16 n

/-- A character that is shown as it is: it is printable and does not attach to the one before it. -/
def isVisible (c : Char) : Bool :=
  let n := c.toNat
  if n < 0x7F then 0x20 ≤ n
  else !(inRanges unprintableRanges n || inRanges graphemeExtendRanges n)

/-- The form of one character inside double quotes. -/
def quotedChar (c : Char) : List Char :=
  match c with
  | '"' => ['\\', '"']
  | '\\' => ['\\', '\\']
  | '\n' => ['\\', 'n']
  | '\r' => ['\\', 'r']
  | '\t' => ['\\', 't']
  | '\x00' => ['\\', '0']
  | c => if isVisible c then [c] else ['\\', 'u', '\x7b'] ++ hexDigits c.toNat ++ ['\x7d']

/-- **A quoted string.** -/
def quoted (s : String) : String :=
  String.ofList ('"' :: s.toList.flatMap quotedChar ++ ['"'])

/-- **A quoted path,** in which single quotes are escaped, too. -/
def quotedPath (s : String) : String :=
  String.ofList ('"' :: s.toList.flatMap (fun c => if c = '\'' then ['\\', c] else quotedChar c) ++ ['"'])

/-- A list of quoted strings in brackets. -/
def quotedList (items : List String) : String :=
  "[" ++ ", ".intercalate (items.map quoted) ++ "]"

/-- A quoted string that may be absent. -/
def quotedOption : Option String → String
  | none => "None"
  | some s => "Some(" ++ quoted s ++ ")"

end GrantProbe.Text
