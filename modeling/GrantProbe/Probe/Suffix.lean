/-!
# Suffixes of generated names

Names are made unique by eight characters that are drawn at random.

* `suffixOf`: the suffix of a sequence of draws;
* `isSuffix`: what a suffix looks like.
-/

namespace GrantProbe

/-- The number of characters of a suffix. -/
def suffixLength : Nat := 8

/-- The characters of a suffix. -/
def suffixAlphabet : List Char := "abcdefghijklmnopqrstuvwxyz0123456789".toList

/-- The character of a draw. -/
def suffixChar (draw : Nat) : Char := suffixAlphabet.getD (draw % suffixAlphabet.length) 'a'

/-- **The suffix of a sequence of draws.** -/
def suffixOf (draws : Nat → Nat) : String :=
  String.ofList ((List.range suffixLength).map fun i => suffixChar (draws i))

/-- The text can be a suffix. -/
def isSuffix (s : String) : Bool :=
  s.length == suffixLength && s.toList.all suffixAlphabet.contains

/-- A generated name. -/
def generatedName (start suffix : String) : String := start ++ "-" ++ suffix

end GrantProbe
