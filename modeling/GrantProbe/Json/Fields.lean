import GrantProbe.Json.Printer
import GrantProbe.Text.Utf8

/-!
# Fields of documents

What descriptions hold under a key, where a missing key and null are the same, and the forms of values that
JSON has no kind for.

* `Json.field?`, `Json.textAt`, `Json.natAt?` and the others: the value under a key;
* `Json.ofReal`, `Json.real`: floats, with words for those that are not finite;
* `Json.ofBytes`, `Json.bytes`: bytes, as a text where they are one.
-/

namespace GrantProbe.Json

/-- The value under a key, unless it is null. -/
def field? (j : Json) (key : String) : Option Json :=
  match j.get? key with
  | some null => none
  | v => v

/-- The value under a key, or null. -/
def fieldOrNull (j : Json) (key : String) : Json := (j.field? key).getD null

/-- The text under a key. -/
def textAt? (j : Json) (key : String) : Option String := (j.field? key).bind text?

/-- The text under a key, empty when there is none. -/
def textAt (j : Json) (key : String) : String := (j.textAt? key).getD ""

/-- The natural number under a key. -/
def natAt? (j : Json) (key : String) : Option Nat := (j.field? key).bind nat?

/-- The truth value under a key. -/
def flagAt? (j : Json) (key : String) : Option Bool := (j.field? key).bind boolean?

/-- The truth value under a key, false when there is none. -/
def flagAt (j : Json) (key : String) : Bool := (j.flagAt? key).getD false

/-- The items of the list under a key, none when there is no list. -/
def itemsAt (j : Json) (key : String) : List Json := ((j.field? key).bind items?).getD []

/-- The texts of the list under a key. -/
def textsAt? (j : Json) (key : String) : Option (List String) :=
  ((j.field? key).bind items?).map fun l => l.filterMap text?

/-- The texts of the list under a key, none when there is no list. -/
def textsAt (j : Json) (key : String) : List String := (j.textsAt? key).getD []

/-- The entries of the object under a key, none when there is no object. -/
def entriesAt (j : Json) (key : String) : List (String × Json) :=
  ((j.field? key).bind entries?).getD []

/-- An object with more entries. -/
def extend (j : Json) (more : List (String × Json)) : Json := object (j.entries?.getD [] ++ more)

/-- An entry for a value that may be missing. -/
def entry? (key : String) (v : Option Json) : List (String × Json) := v.toList.map fun j => (key, j)

/-! ## Floats -/

/-- **A float as JSON.** What is not finite is a word. -/
def ofReal (x : Float) : Json :=
  if x.isNaN then text "NaN"
  else if x.isInf then text (if x < 0.0 then "-inf" else "inf")
  else float x

/-- The float that a value stands for. -/
def real (j : Json) : Float :=
  match j with
  | text "NaN" => 0.0 / 0.0
  | text "inf" => 1.0 / 0.0
  | text "-inf" => -1.0 / 0.0
  | j => j.float?.getD 0.0

def realAt? (j : Json) (key : String) : Option Float := (j.field? key).map real

def realsAt (j : Json) (key : String) : List Float := (j.itemsAt key).map real

/-! ## Bytes -/

/-- The value of a hexadecimal digit. -/
def hexDigitValue (c : Char) : Nat := if c.isDigit then c.toNat - 48 else c.toLower.toNat - 87

/-- The bytes of pairs of hexadecimal digits. -/
def hexBytes : List Char → Bytes
  | a :: b :: rest => UInt8.ofNat (hexDigitValue a * 16 + hexDigitValue b) :: hexBytes rest
  | _ => []

/-- The pairs of hexadecimal digits of bytes. -/
def hexText (b : Bytes) : String :=
  String.ofList (b.flatMap fun x => [hexDigit (x.toNat / 16), hexDigit x.toNat])

/-- **Bytes as JSON:** their text, or their digits if they have none. -/
def ofBytes (b : Bytes) : Json :=
  match Text.decodeUtf8? b with
  | some s => text s
  | none => object [("hex", text (hexText b))]

/-- The bytes that a value stands for. -/
def bytes (j : Json) : Bytes :=
  match j with
  | text s => utf8Bytes s
  | j => hexBytes (j.textAt "hex").toList

end GrantProbe.Json
