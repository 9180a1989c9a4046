/-!
# Searching and splitting text

* `occursIn`: one list of characters stands somewhere inside another;
* `pieces`: the parts of a text between occurrences of a separator;
* `stripStart?`: what follows a known beginning.
-/

namespace GrantProbe.Text

/-- `needle` stands somewhere inside `hay`. -/
def occursIn (needle : List Char) : List Char → Bool
  | [] => needle.isEmpty
  | c :: rest => needle.isPrefixOf (c :: rest) || occursIn needle rest

/-- The parts of a list of characters between the occurrences of `sep`; there is always one part more
than there are separators. -/
def splitAtEach (sep : Char) : List Char → List (List Char)
  | [] => [[]]
  | c :: rest =>
    match splitAtEach sep rest with
    | [] => [[c]]
    | part :: parts => if c = sep then [] :: part :: parts else (c :: part) :: parts

theorem splitAtEach_ne_nil (sep : Char) (s : List Char) : splitAtEach sep s ≠ [] := by
  cases s with
  | nil => simp [splitAtEach]
  | cons c rest =>
    unfold splitAtEach
    split
    · simp
    · split <;> simp

theorem intercalate_splitAtEach (sep : Char) (s : List Char) :
    [sep].intercalate (splitAtEach sep s) = s := by
  induction s with
  | nil => rfl
  | cons c rest ih =>
    unfold splitAtEach
    split
    · next h => exact absurd h (splitAtEach_ne_nil sep rest)
    · next part parts h =>
      rw [h] at ih
      split
      · next hc =>
        subst hc
        rw [← ih]
        simp [List.intercalate, List.intersperse]
      · rw [← ih]
        cases parts <;> simp [List.intercalate, List.intersperse]

/-- **The pieces of a text** between occurrences of `sep`, in order. -/
def pieces (sep : Char) (s : String) : List String :=
  (splitAtEach sep s.toList).map String.ofList

/-- What follows `start` in `s`, when `s` begins with it. -/
def dropStart? (start : List Char) (s : List Char) : Option (List Char) :=
  if start.isPrefixOf s then some (s.drop start.length) else none

/-- What follows `start` in the text `s`, when `s` begins with it. -/
def stripStart? (start s : String) : Option String :=
  (dropStart? start.toList s.toList).map String.ofList

/-- The text begins with `start`. -/
def startsWith (start s : String) : Bool :=
  start.toList.isPrefixOf s.toList

end GrantProbe.Text
