import GrantProbe.Text.Utf8

/-!
# Text without terminal controls

A message that quotes what a user typed is shown without what would steer a terminal: control characters other
than blanks, and the sequences that an escape character begins.

* `isShown`: characters that are no control;
* `withoutControls`: a text without controls and sequences;
* `firstLine`: a text up to its first line break;
* `styled`: a text between such sequences.
-/

namespace GrantProbe.Text

/-- A character that is shown: no ASCII control, or a blank among those. -/
def isShown (c : Char) : Bool :=
  let n := c.toNat
  (0x20 ≤ n && n != 0x7F) || c == '\t' || c == '\n' || c == '\x0c' || c == '\r'

/-- **Where in a sequence a text stands.** -/
inductive Sequence where
  /-- In no sequence. -/
  | outside
  /-- After an escape character. -/
  | escape
  /-- In a sequence that the next letter or digit ends. -/
  | intermediate
  /-- After the opening bracket of a sequence with parameters, which a letter ends. -/
  | parameters
  /-- In a command for the terminal, which a bell ends. -/
  | command
  /-- At the beginning of a string for a device, among its parameters, and after them. -/
  | stringStart
  | stringParameters
  | stringMark
  /-- In a string for a device, which ends with the terminator. -/
  | string
  deriving DecidableEq, Repr, Inhabited

/-- The byte that ends a string for a device, also inside the bytes of a character. -/
def stringTerminator : UInt8 := 0x9C

namespace Sequence

/-- Where a text stands after a character that is not shown and that neither begins nor breaks off a
sequence. -/
def within (s : Sequence) (c : Char) : Sequence :=
  let n := c.toNat
  let isMark := 0x20 ≤ n && n < 0x30
  let isParameter := 0x30 ≤ n && n < 0x40
  let isLetter := 0x40 ≤ n && n < 0x7F
  match s with
  | outside => outside
  | escape =>
    if c == '[' then parameters
    else if c == ']' then command
    else if c == 'P' then stringStart
    else if c == 'X' || c == '^' || c == '_' then string
    else if isMark then intermediate
    else if isParameter || isLetter then outside
    else escape
  | intermediate => if isParameter || isLetter then outside else intermediate
  | parameters => if isLetter then outside else parameters
  | command => if n == 0x07 then outside else command
  | stringStart =>
    if isMark then stringMark else if isParameter then stringParameters
    else if isLetter then string else stringStart
  | stringParameters =>
    if isMark then stringMark else if isLetter || 0x3C ≤ n && n < 0x40 then string
    else stringParameters
  | stringMark => if isParameter || isLetter then string else stringMark
  | string => if (utf8Bytes (String.ofList [c])).contains stringTerminator then outside else string

/-- Where a text stands after a character that is not shown. -/
def after (s : Sequence) (c : Char) : Sequence :=
  let n := c.toNat
  if n == 0x1B then escape
  else if n == 0x18 || n == 0x1A then outside
  else s.within c

/-- The character is shown where it stands. Controls that are blanks are shown inside most sequences, too. -/
def shows : Sequence → Char → Bool
  | outside, c => isShown c
  | escape, c | intermediate, c | parameters, c => isShown c && c.toNat < 0x20
  | _, _ => false

end Sequence

/-- The shown characters of a text that begins somewhere in a sequence. A character that is shown ends the
sequence. -/
def shownFrom : Sequence → List Char → List Char
  | _, [] => []
  | s, c :: rest =>
    if s.shows c then c :: shownFrom .outside rest else shownFrom (s.after c) rest

/-- **A text without terminal controls.** -/
def withoutControls (s : String) : String := String.ofList (shownFrom .outside s.toList)

/-- A text without escape characters loses its controls and nothing else. -/
theorem shownFrom_outside {s : List Char} (h : '\x1b' ∉ s) : shownFrom .outside s = s.filter isShown := by
  induction s with
  | nil => rfl
  | cons c rest ih =>
    have hc : c ≠ '\x1b' := fun e => h (e ▸ List.mem_cons_self)
    have hn : ¬ c.toNat = 0x1B := fun e => hc (Char.ext (UInt32.toNat_inj.1 e))
    have hrest := ih fun m => h (List.mem_cons_of_mem c m)
    by_cases hs : isShown c
    · simp [shownFrom, Sequence.shows, hs, hrest]
    · simp [shownFrom, Sequence.shows, Sequence.after, Sequence.within, hs, hn, hrest]

/-- The characters of a line that a line break ends. A carriage return before the break belongs to it. -/
def beforeBreak (line : List Char) : List Char :=
  if line.getLast? = some '\r' then line.dropLast else line

/-- **The first line** of a text. -/
def firstLine (s : String) : String :=
  let line := s.toList.takeWhile (· != '\n')
  String.ofList (if s.toList.contains '\n' then beforeBreak line else line)

/-- A text that stands out: bold, or in the color with the given code. -/
def styled (code s : String) : String := "\x1b[" ++ code ++ "m" ++ s ++ "\x1b[0m"

end GrantProbe.Text
