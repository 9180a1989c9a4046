import GrantProbe.Decimal.Layout
import GrantProbe.Text.Quoted
import GrantProbe.Timestamp

/-!
# Errors of reading

What is wrong with a document: a text that is not JSON, or JSON of another shape than was expected. An
error is the first problem met from left to right; no position is kept.

* `Found`: what stood where something else was expected;
* `ReadError`, `ReadError.message`: the causes and their wording.
-/

namespace GrantProbe.Json

/-- **What stood in the document** where something else was expected. -/
inductive Found where
  | null
  | boolean (b : Bool)
  | integer (n : Int)
  | float (x : Float)
  | text (s : String)
  | list
  | object
  deriving Repr, Inhabited

/-- What was found, in words. -/
def Found.message : Found → String
  | null => "null"
  | boolean b => "boolean `" ++ (if b then "true" else "false") ++ "`"
  | integer n => "integer `" ++ toString n ++ "`"
  | float x => "floating point `" ++ Decimal.inDocuments.text x ++ "`"
  | text s => "string " ++ Text.quoted s
  | list => "sequence"
  | object => "map"

/-- What the end of the document interrupts. -/
inductive Unfinished where
  | list | object | string | value
  deriving DecidableEq, Repr, Inhabited

/-- **What is wrong with a document.** -/
inductive ReadError where
  | unfinished (what : Unfinished)
  | expectedColon
  | expectedListEnd
  | expectedObjectEnd
  | expectedWord
  | expectedValue
  | invalidEscape
  | invalidNumber
  | numberTooLarge
  | invalidCharacter
  | controlCharacter
  | keyNotString
  | loneSurrogate
  | unfinishedSurrogate
  | trailingComma
  | trailingCharacters
  | tooDeep
  | wrongType (found : Found) (expected : String)
  | wrongValue (found : Found) (expected : String)
  | wrongTime (cause : TimestampError)
  | wrongLength (found : Nat) (expected : String)
  | missingField (name : String)
  | duplicateField (name : String)
  | unknownVariant (name : String) (known : List String)
  deriving Repr, Inhabited

/-- A name between backquotes. -/
def ticked (s : String) : String := "`" ++ s ++ "`"

/-- Names in a message that offers them. -/
def offered : List String → String
  | [a] => ticked a
  | [a, b] => ticked a ++ " or " ++ ticked b
  | names => "one of " ++ ", ".intercalate (names.map ticked)

/-- **The wording of an error.** -/
def ReadError.message : ReadError → String
  | unfinished .list => "EOF while parsing a list"
  | unfinished .object => "EOF while parsing an object"
  | unfinished .string => "EOF while parsing a string"
  | unfinished .value => "EOF while parsing a value"
  | expectedColon => "expected `:`"
  | expectedListEnd => "expected `,` or `]`"
  | expectedObjectEnd => "expected `,` or `\x7d`"
  | expectedWord => "expected ident"
  | expectedValue => "expected value"
  | invalidEscape => "invalid escape"
  | invalidNumber => "invalid number"
  | numberTooLarge => "number out of range"
  | invalidCharacter => "invalid unicode code point"
  | controlCharacter => "control character (\\u0000-\\u001F) found while parsing a string"
  | keyNotString => "key must be a string"
  | loneSurrogate => "lone leading surrogate in hex escape"
  | unfinishedSurrogate => "unexpected end of hex escape"
  | trailingComma => "trailing comma"
  | trailingCharacters => "trailing characters"
  | tooDeep => "recursion limit exceeded"
  | wrongType found expected => "invalid type: " ++ found.message ++ ", expected " ++ expected
  | wrongValue found expected => "invalid value: " ++ found.message ++ ", expected " ++ expected
  | wrongTime cause => cause.message
  | wrongLength found expected => "invalid length " ++ toString found ++ ", expected " ++ expected
  | missingField name => "missing field " ++ ticked name
  | duplicateField name => "duplicate field " ++ ticked name
  | unknownVariant name known =>
    "unknown variant " ++ ticked name ++ ", expected " ++ offered known

end GrantProbe.Json
