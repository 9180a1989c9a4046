/-!
# JSON values

* `Json`: the values, objects with their entries in the order in which they are written;
* `Json.get?` and the other views: what a value holds, if it is of the right kind.
-/

namespace GrantProbe

/-- **A JSON value.** -/
inductive Json where
  | null
  | boolean (b : Bool)
  | integer (n : Int)
  | float (x : Float)
  | text (s : String)
  | list (items : List Json)
  | object (entries : List (String × Json))
  deriving Repr, Inhabited

namespace Json

/-- A list of texts. -/
def texts (items : List String) : Json := list (items.map text)

/-- A natural number. -/
def count (n : Nat) : Json := integer n

/-- A text that may be absent. -/
def textOrNull : Option String → Json
  | some s => text s
  | none => null

/-- The value of a key, the last one if the key is repeated. -/
def get? (key : String) : Json → Option Json
  | object entries => (entries.reverse.find? fun e => e.1 == key).map Prod.snd
  | _ => none

def text? : Json → Option String
  | text s => some s
  | _ => none

def boolean? : Json → Option Bool
  | boolean b => some b
  | _ => none

def nat? : Json → Option Nat
  | integer n => if 0 ≤ n then some n.toNat else none
  | _ => none

def items? : Json → Option (List Json)
  | list items => some items
  | _ => none

def entries? : Json → Option (List (String × Json))
  | object entries => some entries
  | _ => none

/-- A natural number as the nearest float. -/
def floatOfNat (n : Nat) : Float := (UInt64.ofNat n).toFloat

/-- A whole number as the nearest float; its magnitude fits in 64 bits. -/
def floatOfInt (n : Int) : Float := if n < 0 then -floatOfNat n.natAbs else floatOfNat n.natAbs

def float? : Json → Option Float
  | float x => some x
  | integer n => some (floatOfInt n)
  | _ => none

end Json

end GrantProbe
