import GrantProbe.Json.Typed

/-!
# Reading any value

* `Reader.value`: a value whose nesting is bounded;
* `parse`: the value of a text.
-/

namespace GrantProbe.Json

namespace Reader

/-- The depth of nesting that is read. -/
def maxDepth : Nat := 127

/-- A value that is no list and no object. -/
def scalar : Reader Json := do
  match ← peekPast with
  | none => fail (.unfinished .value)
  | some (some '"') => return .text (← quotedText)
  | some (some 'n') =>
    advance
    word ['u', 'l', 'l']
    pure .null
  | some (some 't') =>
    advance
    word ['r', 'u', 'e']
    pure (.boolean true)
  | some (some 'f') =>
    advance
    word ['a', 'l', 's', 'e']
    pure (.boolean false)
  | some c =>
    if c = some '-' ∨ (digit? c).isSome then
      match ← number with
      | .integer n => pure (.integer n)
      | .float x => pure (.float x)
    else fail .expectedValue

/-- **A value** nested no deeper than a bound. -/
def value : (depth : Nat) → Reader Json
  | 0 => do
    match ← peekPast with
    | some (some '[') | some (some '\x7b') => fail .tooDeep
    | _ => scalar
  | depth + 1 => do
    match ← peekPast with
    | some (some '[') =>
      advance
      let items ← listRest (value depth) ((← remaining) + 1) true
      endOfList
      pure (.list items)
    | some (some '\x7b') =>
      advance
      let entries ← entriesRest (value depth) ((← remaining) + 1) true
      advance
      pure (.object entries)
    | _ => scalar

end Reader

/-- **The value of a text.** -/
def parse (s : String) : Except ReadError Json :=
  Reader.whole (Reader.value Reader.maxDepth) (Input.ofText s)

end GrantProbe.Json
