import GrantProbe.Domain.Fold
import GrantProbe.Domain.LabelTable
import GrantProbe.Domain.Punycode
import GrantProbe.Text.Compose

/-!
# Labels of domain names

A label is a part of a domain name between dots. One with letters beyond ASCII has to be in normal
form, does not begin with a mark, and has joiners only where they change a letter. If the name has
letters that run from right to left, no label mixes directions.

* `isSound`: labels beyond ASCII;
* `hasOneDirection`: labels of a name that runs from right to left;
* `readLabel?`, `writeLabel?`: a label as it is written, and back.
-/

namespace GrantProbe.Domain

open Text (inRanges)

/-! ## Marks and joiners -/

/-- A mark that attaches to the character before it. -/
def attaches (c : Char) : Bool := inRanges Text.graphemeExtendRanges c.toNat && c != '\u200c'

/-- A mark. -/
def isMark (c : Char) : Bool := attaches c || inRanges spacingMarkRanges c.toNat

/-- The class of marks that silence a vowel. -/
def viramaClass : Nat := 9

/-- The joiner of letters, and the one that keeps them apart. -/
def joiner : Char := '\u200d'

def nonJoiner : Char := '\u200c'

/-- The letter joins the next one. -/
def joinsNext (c : Char) : Bool := inRanges leftJoiningRanges c.toNat || inRanges dualJoiningRanges c.toNat

/-- The letter joins the one before. -/
def joinsLast (c : Char) : Bool := inRanges rightJoiningRanges c.toNat || inRanges dualJoiningRanges c.toNat

/-- The first character that is no mark satisfies a condition. -/
def meets (p : Char → Bool) (s : List Char) : Bool := ((s.dropWhile attaches).head?.map p).getD false

/-- Joiners stand where they may, in a label whose characters `before`, the last one first, have been read. -/
def joinersFit (before : List Char) : List Char → Bool
  | [] => true
  | c :: rest =>
    let afterVirama := (before.head?.map fun d => Text.combiningClass d == viramaClass).getD false
    let fits :=
      if c = joiner then afterVirama
      else if c = nonJoiner then afterVirama || (meets joinsNext before && meets joinsLast rest)
      else true
    fits && joinersFit (c :: before) rest

/-- **A label beyond ASCII is sound.** -/
def isSound (label : List Char) : Bool :=
  !(label.head?.map isMark).getD false && joinersFit [] label

/-! ## Directions -/

/-- **The directions** in which characters run, numbers and marks apart. -/
inductive Direction where
  | leftToRight | rightToLeft | arabicNumber | europeanNumber | mark | neutral
  deriving DecidableEq, Repr, Inhabited

/-- The direction of a character of a label. -/
def directionOf (c : Char) : Direction :=
  let n := c.toNat
  if n < 0x80 then if c.isAlpha then .leftToRight else if c.isDigit then .europeanNumber else .neutral
  else if inRanges rightToLeftRanges n then .rightToLeft
  else if inRanges arabicNumberRanges n then .arabicNumber
  else if inRanges europeanNumberRanges n then .europeanNumber
  else if attaches c then .mark
  else if inRanges neutralRanges n || c == joiner || c == nonJoiner then .neutral
  else .leftToRight

/-- The character makes a name one that runs from right to left. -/
def turns (c : Char) : Bool :=
  match directionOf c with
  | .rightToLeft | .arabicNumber => true
  | _ => false

/-- The last character that is no mark has one of some directions. -/
def endsIn (directions : List Direction) (s : List Direction) : Bool :=
  ((s.reverse.dropWhile (· == .mark)).head?.map directions.contains).getD false

/-- The directions of a label that begins with a letter agree. -/
def agree : List Direction → Bool
  | .leftToRight :: rest =>
    !rest.contains .rightToLeft && !rest.contains .arabicNumber &&
      endsIn [.leftToRight, .europeanNumber] (.leftToRight :: rest)
  | .rightToLeft :: rest =>
    !rest.contains .leftToRight && !(rest.contains .arabicNumber && rest.contains .europeanNumber) &&
      endsIn [.rightToLeft, .arabicNumber, .europeanNumber] (.rightToLeft :: rest)
  | _ => false

/-- **A label of a name that runs from right to left.** An empty label agrees with any. -/
def hasOneDirection (label : List Char) : Bool := label.isEmpty || agree (label.map directionOf)

/-! ## Labels as they are written -/

/-- What a label with letters beyond ASCII begins with. -/
def encodedMark : List Char := ['x', 'n', '-', '-']

/-- The greatest lengths of labels that are read and written with letters beyond ASCII. -/
def maxEncoded : Nat := 2000

def maxDecoded : Nat := 1000

/-- The label counts as itself and is in normal form. -/
def isSettled (label : List Char) : Bool := fold? label == some label && Text.composed label == label

/-- **The label that a text stands for,** if it stands for one. -/
def readLabel? (s : List Char) : Option (List Char) :=
  if s.take encodedMark.length = encodedMark then
    let rest := s.drop encodedMark.length
    if !rest.all isAscii || maxEncoded < rest.length then none
    else
      (decode? rest).filter fun label => !label.all isAscii && isSettled label && isSound label
  else if s.all isAscii || isSound s then some s
  else none

/-- **A label as ASCII,** unless it is too long. -/
def writeLabel? (label : List Char) : Option (List Char) :=
  if label.all isAscii then some label
  else if maxDecoded < label.length then none
  else some (encodedMark ++ encode label)

end GrantProbe.Domain
