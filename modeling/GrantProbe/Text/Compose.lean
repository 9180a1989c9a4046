import GrantProbe.Text.ComposeTable

/-!
# Composed text

The normal form in which one character stands for a base and its marks wherever there is such a character, and
the other marks come in a fixed order.

* `combiningClass`: the order of a mark; zero for what is no mark;
* `decompose`, `reorder`: a text in single bases and marks, in order;
* `compose`: the other way around; `composed`: the normal form.
-/

namespace GrantProbe.Text

/-- The class of a mark, zero for any other character. -/
def combiningClass (c : Char) : Nat :=
  let n := c.toNat
  if n < 0x300 then 0
  else ((combiningClasses.find? fun r => r.1 ≤ n && n ≤ r.2.1).map fun r => r.2.2).getD 0

/-! ## Syllables -/

/-- The first Hangul syllable, and the first of each kind of its letters; the one before the first final. -/
def firstSyllable : Nat := 0xAC00

def firstInitial : Nat := 0x1100

def firstVowel : Nat := 0x1161

def beforeFinals : Nat := 0x11A7

/-- How many initials, vowels and finals there are, counting no final as one. -/
def initialCount : Nat := 19

def vowelCount : Nat := 21

def finalCount : Nat := 28

/-- A syllable as its letters. -/
def syllableLetters? (c : Char) : Option (List Char) :=
  let n := c.toNat
  if firstSyllable ≤ n ∧ n < firstSyllable + initialCount * vowelCount * finalCount then
    let k := n - firstSyllable
    let opened := [Char.ofNat (firstInitial + k / (vowelCount * finalCount)),
      Char.ofNat (firstVowel + k / finalCount % vowelCount)]
    some (if k % finalCount = 0 then opened else opened ++ [Char.ofNat (beforeFinals + k % finalCount)])
  else none

/-- The syllable of two letters, or of a syllable and a final. -/
def syllable? (a b : Char) : Option Char :=
  let m := a.toNat
  let n := b.toNat
  if firstInitial ≤ m ∧ m < firstInitial + initialCount ∧
      firstVowel ≤ n ∧ n < firstVowel + vowelCount then
    some (Char.ofNat (firstSyllable +
      ((m - firstInitial) * vowelCount + (n - firstVowel)) * finalCount))
  else if firstSyllable ≤ m ∧ m < firstSyllable + initialCount * vowelCount * finalCount ∧
      (m - firstSyllable) % finalCount = 0 ∧ beforeFinals < n ∧ n < beforeFinals + finalCount then
    some (Char.ofNat (m + (n - beforeFinals)))
  else none

/-! ## Bases and marks -/

/-- The place of a character in a list of characters. -/
def placeOf? (c : Char) : List Char → Option Nat
  | [] => none
  | d :: rest => if d = c then some 0 else (placeOf? c rest).map (· + 1)

/-- The character that stands for a base with a mark. -/
def composite? (base mark : Char) : Option Char :=
  match syllable? base mark with
  | some c => some c
  | none =>
    (compositions.filter fun e => e.1 == mark.toNat).findSome? fun (_, bases, images) =>
      (placeOf? base bases.toList).bind fun i => images.toList[i]?

/-- The base and the mark that a character stands for. -/
def basePair? (c : Char) : Option (Char × Char) :=
  compositions.findSome? fun (mark, bases, images) =>
    (placeOf? c images.toList).bind fun i => bases.toList[i]?.map fun b => (b, Char.ofNat mark)

/-- How often a base can be a composed character itself. -/
def maxComposition : Nat := 4

/-- A character as its base and its marks. -/
def decomposeChar : (depth : Nat) → Char → List Char
  | 0, c => [c]
  | depth + 1, c =>
    if c.toNat < 0x80 then [c]
    else
      match syllableLetters? c with
      | some letters => letters
      | none =>
        match basePair? c with
        | some (base, mark) => decomposeChar depth base ++ [mark]
        | none => [c]

/-- **A text in bases and marks.** -/
def decompose (s : List Char) : List Char := s.flatMap (decomposeChar maxComposition)

/-- A mark behind those of its class and of lower ones. -/
def insertMark (c : Char) : List Char → List Char
  | [] => [c]
  | d :: rest => if combiningClass d ≤ combiningClass c then d :: insertMark c rest else c :: d :: rest

/-- The marks of each base in the order of their classes; `marks` are those that have been read. -/
def reorder (marks : List Char) : List Char → List Char
  | [] => marks
  | c :: rest =>
    if combiningClass c = 0 then marks ++ c :: reorder [] rest else reorder (insertMark c marks) rest

/-- Whether marks stand between a base and the next character so that the two cannot meet. -/
def blocks (held : List Char) (c : Char) : Bool :=
  match held.getLast? with
  | none => false
  | some d => combiningClass c ≤ combiningClass d

/-- The composed form of a base, the marks after it that found no place, and the rest of a text. -/
def composeFrom (base : Char) (held : List Char) : List Char → List Char
  | [] => base :: held
  | c :: rest =>
    match if blocks held c then none else composite? base c with
    | some d => composeFrom d held rest
    | none =>
      if combiningClass c = 0 then base :: held ++ composeFrom c [] rest
      else composeFrom base (held ++ [c]) rest

/-- **Composes** bases with their marks. -/
def compose : List Char → List Char
  | [] => []
  | c :: rest => composeFrom c [] rest

/-- **The normal form** of a text. -/
def composed (s : List Char) : List Char := compose (reorder [] (decompose s))

end GrantProbe.Text
