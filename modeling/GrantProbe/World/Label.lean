import GrantProbe.Json.Fields
import GrantProbe.World.Fault

/-!
# Labelled suffixes

In a simulated world a drawn suffix is a mark, and a mark that a backend has seen is shown as a label, `r1`
for the first, so that what a run shows does not hang on chance.

* `mark`, `stretches`: marks and the text around them;
* `Labels.see`, `Labels.apply`: numbering marks and showing them;
* `LabelledWorld`, with `LabelledWorld.answer`: a world with faults that numbers the marks it sees.
-/

namespace GrantProbe

def markOpen : Char := '\uE000'

def markClose : Char := '\uE001'

/-- The mark of a draw. -/
def mark (draw : Nat) : String :=
  String.ofList (markOpen :: (Decimal.digitChars draw ++ [markClose]))

/-- A stretch of text: a mark, or text without marks. -/
structure Stretch where
  isMark : Bool
  text : List Char
  deriving DecidableEq, Repr, Inhabited

/-- Puts a character in front of stretches. -/
def Stretch.push (c : Char) : List Stretch → List Stretch
  | ⟨false, text⟩ :: rest => ⟨false, c :: text⟩ :: rest
  | rest => ⟨false, [c]⟩ :: rest

/-- **The stretches of a text.** -/
def stretches : List Char → List Stretch
  | [] => []
  | c :: rest =>
    if c = markOpen then
      match stretches rest with
      | ⟨false, text⟩ :: more =>
        match text.span (· ≠ markClose) with
        | (inside, close :: after) =>
          ⟨true, c :: inside ++ [close]⟩ :: (if after.isEmpty then more else ⟨false, after⟩ :: more)
        | _ => Stretch.push c (⟨false, text⟩ :: more)
      | more => Stretch.push c more
    else Stretch.push c (stretches rest)

/-- **The marks that have been seen,** the first one first. -/
abbrev Labels : Type := List (List Char)

namespace Labels

/-- The marks after a text has been seen. -/
def see (seen : Labels) (text : String) : Labels :=
  (stretches text.toList).foldl
    (fun seen s => if s.isMark && !seen.contains s.text then seen ++ [s.text] else seen) seen

/-- What is shown of a stretch: the label of a mark that has been seen. -/
def shown (seen : Labels) (s : Stretch) : List Char :=
  match s.isMark, seen.idxOf? s.text with
  | true, some i => 'r' :: Decimal.digitChars (i + 1)
  | _, _ => s.text

/-- **A text with its marks labelled.** -/
def apply (seen : Labels) (text : String) : String :=
  if text.toList.contains markOpen then
    String.ofList ((stretches text.toList).flatMap seen.shown)
  else text

mutual

/-- A document with its marks labelled. -/
def applyAll (seen : Labels) : Json → Json
  | .text s => .text (apply seen s)
  | .list items => .list (applyItems seen items)
  | .object entries => .object (applyEntries seen entries)
  | j => j

def applyItems (seen : Labels) : List Json → List Json
  | [] => []
  | j :: rest => applyAll seen j :: applyItems seen rest

def applyEntries (seen : Labels) : List (String × Json) → List (String × Json)
  | [] => []
  | (k, j) :: rest => (apply seen k, applyAll seen j) :: applyEntries seen rest

end

end Labels

/-- **A world with faults that numbers the marks it sees.** It stores names with their labels; the names of
artifacts keep their marks, since their owners go on to use them. -/
structure LabelledWorld where
  inner : FaultyWorld
  seen : Labels
  draws : Nat

namespace LabelledWorld

/-- The world after a text has been seen. -/
def see (s : LabelledWorld) (text : String) : LabelledWorld := { s with seen := s.seen.see text }

/-- The answer to a request that has no names to number. -/
def pass (s : LabelledWorld) (request : Ask) : request.Answer × LabelledWorld :=
  let (answer, inner) := FaultyWorld.answer request s.inner
  (answer, { s with inner := inner })

/-- **The answer to a request.** -/
def answer : Program.Handler probe LabelledWorld := fun request s =>
  match request with
  | .suffix => (mark s.draws, { s with draws := s.draws + 1 })
  | .identity (.create name scope) =>
    (s.see name).pass (.identity (.create ((s.see name).seen.apply name) scope))
  | .tracking client (.createExperiment name) =>
    (s.see name).pass (.tracking client (.createExperiment ((s.see name).seen.apply name)))
  | .tracking client (.createRegisteredModel name) =>
    (s.see name).pass (.tracking client (.createRegisteredModel ((s.see name).seen.apply name)))
  | .tracking client (.logArtifact run artifact) =>
    (s.see artifact.name).pass (.tracking client (.logArtifact run artifact))
  | .tracking client (.downloadArtifact run path) =>
    (s.see path).pass (.tracking client (.downloadArtifact run path))
  | request => s.pass request

/-- Runs a program. -/
def run {α : Type} (s : LabelledWorld) (p : Program probe α) : α × LabelledWorld := p.run answer s

end LabelledWorld

end GrantProbe
