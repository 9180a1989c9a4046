import GrantProbe.Json.Skip

/-!
# Reading values of a known kind

* `Reader.mismatch`: the error for a value of another kind;
* `Reader.text`, `Reader.flag`, `Reader.wholeOf`, `Reader.float`, `Reader.moment`: the simple kinds;
* `Reader.option`, `Reader.list`, `Reader.mapping`: values that may be null, lists, objects with any keys;
* `Reader.variant`: one of a list of names, or an object with such a name as its only key.
-/

namespace GrantProbe.Json.Reader

variable {α : Type}

/-- **A value of the wrong kind.** What stands here is read as far as it takes to name it. -/
def mismatch (expected : String) : Reader α := do
  match ← peekPast with
  | none => fail (.unfinished .value)
  | some (some '"') => fail (.wrongType (.text (← quotedText)) expected)
  | some (some '[') => fail (.wrongType .list expected)
  | some (some '\x7b') => fail (.wrongType .object expected)
  | some (some 'n') =>
    advance
    word ['u', 'l', 'l']
    fail (.wrongType .null expected)
  | some (some 't') =>
    advance
    word ['r', 'u', 'e']
    fail (.wrongType (.boolean true) expected)
  | some (some 'f') =>
    advance
    word ['a', 'l', 's', 'e']
    fail (.wrongType (.boolean false) expected)
  | some c =>
    if c = some '-' ∨ (digit? c).isSome then
      match ← number with
      | .integer n => fail (.wrongType (.integer n) expected)
      | .float x => fail (.wrongType (.float x) expected)
    else fail .expectedValue

/-- A text, described as `expected` where another kind stands. -/
def textAs (expected : String) : Reader String := do
  if (← peekPast) = some (some '"') then quotedText else mismatch expected

/-- **A text.** -/
def text : Reader String := textAs "a string"

/-- **A truth value.** -/
def flag : Reader Bool := do
  match ← peekPast with
  | some (some 't') =>
    advance
    word ['r', 'u', 'e']
    pure true
  | some (some 'f') =>
    advance
    word ['a', 'l', 's', 'e']
    pure false
  | _ => mismatch "a boolean"

/-- **The whole numbers of a width:** the least, the greatest, and what they are called. -/
structure Width where
  least : Int
  greatest : Int
  name : String

namespace Width

/-- Sixteen bits without a sign. -/
def u16 : Width := ⟨0, 65535, "u16"⟩

/-- Thirty-two bits without a sign. -/
def u32 : Width := ⟨0, 4294967295, "u32"⟩

/-- Sixty-four bits with a sign. -/
def i64 : Width := ⟨-9223372036854775808, 9223372036854775807, "i64"⟩

end Width

/-- **A whole number** of a width. -/
def wholeOf (width : Width) : Reader Int := do
  match ← peekPast with
  | some c =>
    if c = some '-' ∨ (digit? c).isSome then
      match ← number with
      | .integer n =>
        if width.least ≤ n ∧ n ≤ width.greatest then pure n
        else fail (.wrongValue (.integer n) width.name)
      | .float x => fail (.wrongType (.float x) width.name)
    else mismatch width.name
  | none => mismatch width.name

/-- **A point in time.** -/
def moment : Reader Timestamp := do
  match Timestamp.parse (← textAs "an RFC 3339 formatted date and time string") with
  | .ok t => pure t
  | .error e => fail (.wrongTime e)

/-- **A number** as a float. -/
def float : Reader Float := do
  match ← peekPast with
  | some c =>
    if c = some '-' ∨ (digit? c).isSome then
      match ← number with
      | .integer n => pure (floatOfInt n)
      | .float x => pure x
    else mismatch "f64"
  | none => mismatch "f64"

/-- **A value that may be null.** -/
def option (r : Reader α) : Reader (Option α) := do
  if (← peekPast) = some (some 'n') then
    advance
    word ['u', 'l', 'l']
    pure none
  else return some (← r)

/-- The rest of a list. -/
def listRest (item : Reader α) : (fuel : Nat) → (isFirst : Bool) → Reader (List α)
  | 0, _ => fail (.unfinished .list)
  | fuel + 1, isFirst => do
    if ← moreItems isFirst then
      let a ← item
      return a :: (← listRest item fuel false)
    else pure []

/-- **A list.** -/
def list (item : Reader α) : Reader (List α) := do
  if (← peekPast) = some (some '[') then
    advance
    let items ← listRest item ((← remaining) + 1) true
    endOfList
    pure items
  else mismatch "a sequence"

/-- The rest of an object with any keys. -/
def entriesRest (value : Reader α) : (fuel : Nat) → (isFirst : Bool) → Reader (List (String × α))
  | 0, _ => fail (.unfinished .object)
  | fuel + 1, isFirst => do
    if ← moreKeys isFirst then
      let key ← quotedText
      colon
      let v ← value
      return (key, v) :: (← entriesRest value fuel false)
    else pure []

/-- **An object with any keys.** -/
def mapping (value : Reader α) : Reader (List (String × α)) := do
  if (← peekPast) = some (some '\x7b') then
    advance
    let entries ← entriesRest value ((← remaining) + 1) true
    advance
    pure entries
  else mismatch "a map"

/-! ## Names -/

/-- The value that a name stands for. -/
def named (known : List (String × α)) (name : String) : Reader α :=
  match known.find? (·.1 == name) with
  | some (_, a) => pure a
  | none => fail (.unknownVariant name (known.map Prod.fst))

/-- Null, as the value of a key that is a name. -/
def unit : Reader Unit := do
  if (← peekPast) = some (some 'n') then
    advance
    word ['u', 'l', 'l']
  else mismatch "unit"

/-- **One of a list of names:** the name as a text, or an object with the name as its only key and null as
its value. -/
def variant (known : List (String × α)) : Reader α := do
  match ← peekPast with
  | none => fail (.unfinished .value)
  | some (some '"') => named known (← quotedText)
  | some (some '\x7b') =>
    advance
    let a ← named known (← textAs "variant identifier")
    colon
    unit
    match ← peekPast with
    | none => fail (.unfinished .object)
    | some (some '\x7d') => advance *> pure a
    | some _ => fail .expectedValue
  | some _ => fail .expectedValue

end GrantProbe.Json.Reader
