import GrantProbe.Json.Typed

/-!
# Reading objects by their members

An object of which some members are known. They come in any order; unknown ones are passed over and
the last of a repeated one counts, though every value has to be of the right kind. No list stands
for such an object.

* `Member`: how one member is read into a draft;
* `Member.checked`, `Member.kept`, `Member.needed`, `Member.exactly`: members that are looked at,
  stored, never null, or known beforehand;
* `Reader.object`: the draft that the members leave.
-/

namespace GrantProbe.Json

/-- **A member** of an object that is read into drafts of type `σ`. -/
structure Member (σ : Type) where
  name : String
  /-- Reads the value into a draft. -/
  read : σ → Reader σ

namespace Member

variable {σ α : Type}

/-- A member that may be null and whose value is stored. -/
def kept (name : String) (value : Reader α) (put : σ → Option α → σ) : Member σ :=
  ⟨name, fun draft => do return put draft (← Reader.option value)⟩

/-- A member that may be null and whose value only has to be of the right kind. -/
def checked (name : String) (value : Reader α) : Member σ := kept name value fun draft _ => draft

/-- A member that is never null and whose value is stored. -/
def needed (name : String) (value : Reader α) (put : σ → α → σ) : Member σ :=
  ⟨name, fun draft => do return put draft (← value)⟩

/-- A member whose value is known beforehand. -/
def exactly (name expected : String) : Member σ :=
  ⟨name, fun draft => do
    let found ← Reader.text
    if found = expected then pure draft else Reader.fail (.wrongValue (.text found) expected)⟩

end Member

namespace Reader

variable {σ : Type}

/-- The rest of an object. -/
def membersRest (members : List (Member σ)) : (fuel : Nat) → (isFirst : Bool) → σ → Reader σ
  | 0, _, _ => fail (.unfinished .object)
  | fuel + 1, isFirst, draft => do
    if ← moreKeys isFirst then
      let key ← quotedText
      colon
      match members.find? (·.name == key) with
      | some member => membersRest members fuel false (← member.read draft)
      | none =>
        passValue
        membersRest members fuel false draft
    else pure draft

/-- **An object** that is called `title` in messages. -/
def object (title : String) (members : List (Member σ)) (blank : σ) : Reader σ := do
  if (← peekPast) = some (some '\x7b') then
    advance
    let draft ← membersRest members ((← remaining) + 1) true blank
    advance
    pure draft
  else mismatch title

/-- An object all of whose members are only looked at. -/
def outline (title : String) (members : List (Member Unit)) : Reader Unit := object title members ()

end Reader

end GrantProbe.Json
