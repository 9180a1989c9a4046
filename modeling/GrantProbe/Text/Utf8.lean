/-!
# UTF-8

Bytes as characters, with what is left over when they are not well-formed.

* `Chunk`, `chunks`: the characters of a sequence of bytes, and the stretches that belong to none;
* `lossy`: one replacement character for each such stretch;
* `damage?`: the first of them, with its place.
-/

namespace GrantProbe

/-- Raw bytes. -/
abbrev Bytes : Type := List UInt8

/-- The bytes of a text. -/
def utf8Bytes (s : String) : Bytes := s.toUTF8.toList

namespace Text

/-- What the first byte of a character tells: its share of the code point, how many bytes follow, and
between which bounds the next one lies. -/
structure Lead where
  bits : Nat
  more : Nat
  low : Nat
  high : Nat

/-- The first byte of a character. -/
def lead? (b : Nat) : Option Lead :=
  if b < 0x80 then some ⟨b, 0, 0, 0⟩
  else if b < 0xC2 then none
  else if b < 0xE0 then some ⟨b - 0xC0, 1, 0x80, 0xBF⟩
  else if b = 0xE0 then some ⟨0, 2, 0xA0, 0xBF⟩
  else if b = 0xED then some ⟨13, 2, 0x80, 0x9F⟩
  else if b < 0xF0 then some ⟨b - 0xE0, 2, 0x80, 0xBF⟩
  else if b = 0xF0 then some ⟨0, 3, 0x90, 0xBF⟩
  else if b < 0xF4 then some ⟨b - 0xF0, 3, 0x80, 0xBF⟩
  else if b = 0xF4 then some ⟨4, 3, 0x80, 0x8F⟩
  else none

/-- **A stretch of bytes.** -/
inductive Chunk where
  /-- The bytes of one character. -/
  | char (c : Char)
  /-- The beginning of a character, which the next byte does not continue; or one stray byte. -/
  | broken (length : Nat)
  /-- The beginning of a character at the very end. -/
  | cut (length : Nat)
  deriving DecidableEq, Repr, Inhabited

/-- The rest of a character of which `taken` bytes have been read. -/
def continueChar (more low high bits taken : Nat) (bytes : Bytes) : Chunk × Bytes :=
  match more with
  | 0 => (.char (Char.ofNat bits), bytes)
  | more + 1 =>
    match bytes with
    | [] => (.cut taken, [])
    | b :: rest =>
      if low ≤ b.toNat ∧ b.toNat ≤ high then
        continueChar more 0x80 0xBF (bits * 64 + b.toNat % 64) (taken + 1) rest
      else (.broken taken, b :: rest)

theorem continueChar_length_le (more low high bits taken : Nat) (bytes : Bytes) :
    (continueChar more low high bits taken bytes).2.length ≤ bytes.length := by
  fun_induction continueChar with
  | case1 => simp
  | case2 => simp
  | case3 _ _ _ _ _ b rest _ ih => exact Nat.le_succ_of_le ih
  | case4 => simp

/-- **The chunks of a sequence of bytes,** in order. -/
def chunks (bytes : Bytes) : List Chunk :=
  match bytes with
  | [] => []
  | b :: rest =>
    match lead? b.toNat with
    | none => .broken 1 :: chunks rest
    | some l =>
      let step := continueChar l.more l.low l.high l.bits 1 rest
      step.1 :: chunks step.2
termination_by bytes.length
decreasing_by
  · simp
  · exact Nat.lt_succ_of_le (continueChar_length_le ..)

/-- The character shown for a chunk. -/
def Chunk.shown : Chunk → Char
  | char c => c
  | _ => '\uFFFD'

/-- **Bytes as text,** whatever they are. -/
def lossy (bytes : Bytes) : String := String.ofList ((chunks bytes).map Chunk.shown)

/-- The number of bytes of a chunk. -/
def Chunk.size : Chunk → Nat
  | char c => c.utf8Size
  | broken n => n
  | cut n => n

/-- The first chunk that is no character, in words, counting bytes from `start`. -/
def damageFrom (start : Nat) : List Chunk → Option String
  | [] => none
  | .char c :: rest => damageFrom (start + c.utf8Size) rest
  | .broken n :: _ =>
    some ("invalid utf-8 sequence of " ++ toString n ++ " bytes from index " ++ toString start)
  | .cut _ :: _ => some ("incomplete utf-8 byte sequence from index " ++ toString start)

/-- **The first damage** of a sequence of bytes, in words. -/
def damage? (bytes : Bytes) : Option String := damageFrom 0 (chunks bytes)

/-- The text of well-formed bytes. -/
def decodeUtf8? (bytes : Bytes) : Option String :=
  match damage? bytes with
  | none => some (lossy bytes)
  | some _ => none

end Text

end GrantProbe
