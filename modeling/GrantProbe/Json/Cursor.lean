import GrantProbe.Json.Error
import GrantProbe.Text.Utf8

/-!
# Reading from left to right

A reader takes characters from the front of a document and leaves the rest. A received document may hold
bytes that belong to no character; each of them is one place of its own.

* `Input`, `Input.ofText`, `Input.ofBytes`: documents;
* `Reader`: a computation that reads; `Reader.whole` reads a document to its end;
* `word`, `endOfList`, `moreItems` and the others: the marks that hold a document together.
-/

namespace GrantProbe.Json

/-- **A document to be read.** A byte that belongs to no character is `none`. -/
abbrev Input : Type := List (Option Char)

/-- A text as a document. -/
def Input.ofText (s : String) : Input := s.toList.map some

/-- The places of a chunk of bytes. -/
def Input.ofChunk : Text.Chunk → Input
  | .char c => [some c]
  | chunk => List.replicate chunk.size none

/-- Bytes as a document. -/
def Input.ofBytes (bytes : Bytes) : Input := (Text.chunks bytes).flatMap Input.ofChunk

/-- **A reader:** it takes what it reads from the front of the document. -/
abbrev Reader (α : Type) : Type := StateT Input (Except ReadError) α

/-- A blank between the parts of a document. -/
def isGap : Option Char → Bool
  | some ' ' | some '\n' | some '\t' | some '\r' => true
  | _ => false

namespace Reader

variable {α : Type}

/-- Stops with an error. -/
def fail (e : ReadError) : Reader α := fun _ => .error e

/-- The next place, which stays in the document; none at the end. -/
def peek : Reader (Option (Option Char)) := fun input => .ok (input.head?, input)

/-- The next place after blanks. -/
def peekPast : Reader (Option (Option Char)) := fun input =>
  .ok ((input.dropWhile isGap).head?, input.dropWhile isGap)

/-- Takes the next place. -/
def advance : Reader Unit := fun input => .ok ((), input.tail)

/-- The number of places that are left. -/
def remaining : Reader Nat := fun input => .ok (input.length, input)

/-- The rest of a word that is known by its first letter. -/
def word : List Char → Reader Unit
  | [] => pure ()
  | c :: rest => do
    match ← peek with
    | none => fail (.unfinished .value)
    | some d => if d = some c then advance *> word rest else fail .expectedWord

/-! ## Lists and objects -/

/-- Whether a list goes on with an item, before its first one or after another. -/
def moreItems (isFirst : Bool) : Reader Bool := do
  match ← peekPast with
  | none => fail (.unfinished .list)
  | some (some ']') => pure false
  | some c =>
    if isFirst then pure true
    else if c = some ',' then
      advance
      match ← peekPast with
      | none => fail (.unfinished .value)
      | some (some ']') => fail .trailingComma
      | some _ => pure true
    else fail .expectedListEnd

/-- The end of a list all of whose items have been read. -/
def endOfList : Reader Unit := do
  match ← peekPast with
  | none => fail (.unfinished .list)
  | some (some ']') => advance
  | some (some ',') =>
    advance
    match ← peekPast with
    | some (some ']') => fail .trailingComma
    | _ => fail .trailingCharacters
  | some _ => fail .trailingCharacters

/-- Whether an object goes on with a key, before its first one or after another. -/
def moreKeys (isFirst : Bool) : Reader Bool := do
  match ← peekPast with
  | none => fail (.unfinished .object)
  | some (some '\x7d') => pure false
  | some c =>
    if isFirst then if c = some '"' then pure true else fail .keyNotString
    else if c = some ',' then
      advance
      match ← peekPast with
      | none => fail (.unfinished .value)
      | some (some '"') => pure true
      | some (some '\x7d') => fail .trailingComma
      | some _ => fail .keyNotString
    else fail .expectedObjectEnd

/-- The colon between a key and its value. -/
def colon : Reader Unit := do
  match ← peekPast with
  | none => fail (.unfinished .object)
  | some (some ':') => advance
  | some _ => fail .expectedColon

/-- **Reading to the end.** Nothing but blanks may follow. -/
def whole (r : Reader α) (input : Input) : Except ReadError α :=
  match r input with
  | .error e => .error e
  | .ok (a, rest) => if rest.all isGap then .ok a else .error .trailingCharacters

end Reader

end GrantProbe.Json
