import GrantProbe.Json.Typed

/-!
# Reading records

A record is written as an object, whose keys come in any order and of which unknown ones are passed over, or
as a list of its fields in their order.

* `Field`: how one field is read into a draft of the record;
* `RecordShape`: the fields of a record and what becomes of a draft;
* `RecordShape.reader`: the record in either form.
-/

namespace GrantProbe.Json

/-- **A field** of a record that is read into drafts of type `σ`. -/
structure Field (σ : Type) where
  name : String
  /-- The draft has a value for the field. -/
  isSet : σ → Bool
  /-- Reads the value into a draft. -/
  read : σ → Reader σ
  /-- A list may end before the field. -/
  optional : Bool

/-- A field whose value is stored in a place of the draft. -/
def Field.of {σ β : Type} (name : String) (optional : Bool) (get : σ → Option β)
    (put : σ → β → σ) (value : Reader β) : Field σ :=
  ⟨name, fun draft => (get draft).isSome, fun draft => do return put draft (← value), optional⟩

/-- A field that may be left out and whose value only has to be of the right kind. A draft is the list of the
names that have been seen. -/
def Field.noted {β : Type} (name : String) (value : Reader β) : Field (List String) :=
  ⟨name, fun seen => seen.contains name, fun seen => do
    let _ ← value
    return name :: seen, true⟩

/-- **A record:** its name in messages, its fields in order, the empty draft, and what a draft makes when
nothing more follows. -/
structure RecordShape (σ α : Type) where
  name : String
  fields : List (Field σ)
  blank : σ
  finish : σ → Except ReadError α

/-- The value of a field that has to be there. -/
def required {β : Type} (name : String) : Option β → Except ReadError β
  | some b => .ok b
  | none => .error (.missingField name)

namespace RecordShape

open Reader

variable {σ α : Type} (shape : RecordShape σ α)

/-- The record in messages. -/
def title : String := "struct " ++ shape.name

/-- The record in messages about its length. -/
def titleWithSize : String :=
  shape.title ++ " with " ++ toString shape.fields.length ++
    (if shape.fields.length = 1 then " element" else " elements")

/-- The rest of an object. A repeated field is an error before its value is read. -/
def entries : (fuel : Nat) → (isFirst : Bool) → σ → Reader σ
  | 0, _, _ => fail (.unfinished .object)
  | fuel + 1, isFirst, draft => do
    if ← moreKeys isFirst then
      let key ← quotedText
      match shape.fields.find? (·.name == key) with
      | some field =>
        if field.isSet draft then fail (.duplicateField key)
        else
          colon
          entries fuel false (← field.read draft)
      | none =>
        colon
        passValue
        entries fuel false draft
    else pure draft

/-- The rest of a list, from the field with the given index on. -/
def elements (index : Nat) : List (Field σ) → σ → Reader σ
  | [], draft => pure draft
  | field :: rest, draft => do
    if ← moreItems (index == 0) then elements (index + 1) rest (← field.read draft)
    else if field.optional then elements (index + 1) rest draft
    else fail (.wrongLength index shape.titleWithSize)

/-- **A record.** -/
def reader : Reader α := do
  match ← peekPast with
  | some (some '[') =>
    advance
    let a ← check (shape.finish (← shape.elements 0 shape.fields shape.blank))
    endOfList
    pure a
  | some (some '\x7b') =>
    advance
    let a ← check (shape.finish (← shape.entries ((← remaining) + 1) true shape.blank))
    advance
    pure a
  | _ => mismatch shape.title

/-- A record that is the whole of a document. -/
def read (input : Input) : Except ReadError α := whole shape.reader input

/-- A record with a single field, which has to be there. -/
def single {β : Type} (name field : String) (value : Reader β) : RecordShape (Option β) β :=
  ⟨name, [.of field false id (fun _ b => some b) value], none, required field⟩

/-- A record whose fields may all be left out and are only looked at. -/
def outline (name : String) (fields : List (Field (List String))) : RecordShape (List String) Unit :=
  ⟨name, fields, [], fun _ => .ok ()⟩

end RecordShape

end GrantProbe.Json
