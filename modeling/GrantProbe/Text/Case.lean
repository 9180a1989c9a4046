import GrantProbe.Text.CaseTable

/-!
# Letter case

Full Unicode case conversion: some mappings change the length, and a capital sigma at the end of a word
becomes the final form.

* `lower`, `upper`: the conversions;
* `asciiLower`: the conversion that touches `A`–`Z` alone.
-/

namespace GrantProbe.Text

/-- The code point lies in one of the ranges. -/
def inRanges (ranges : List (Nat × Nat)) (n : Nat) : Bool :=
  ranges.any fun r => r.1 ≤ n && n ≤ r.2

/-- The image of a code point under a run, if the run covers it. -/
def CaseRun.image? (r : CaseRun) (n : Nat) : Option Nat :=
  if r.first ≤ n && n ≤ r.last && (n - r.first) % r.stride == 0 then
    some (r.image + (n - r.first))
  else
    none

/-- The character that `runs` maps `c` to; `c` itself where no run covers it. -/
def mapByRuns (runs : List CaseRun) (c : Char) : Char :=
  match runs.findSome? (CaseRun.image? · c.toNat) with
  | some n => Char.ofNat n
  | none => c

/-- `A`–`Z` become `a`–`z`; every other character stays. -/
def asciiLowerChar (c : Char) : Char :=
  if 'A' ≤ c ∧ c ≤ 'Z' then Char.ofNat (c.toNat + 32) else c

/-- `a`–`z` become `A`–`Z`; every other character stays. -/
def asciiUpperChar (c : Char) : Char :=
  if 'a' ≤ c ∧ c ≤ 'z' then Char.ofNat (c.toNat - 32) else c

/-- The conversion that touches `A`–`Z` alone. -/
def asciiLower (s : String) : String :=
  String.ofList (s.toList.map asciiLowerChar)

/-- The lower-case form of one character on its own. `İ` is the one letter with a form of two
characters. -/
def lowerChar (c : Char) : List Char :=
  if c.toNat < 0x80 then [asciiLowerChar c]
  else if c = 'İ' then ['i', '\u0307']
  else [mapByRuns lowerRuns c]

/-- The upper-case form of one character. -/
def upperChar (c : Char) : List Char :=
  if c.toNat < 0x80 then [asciiUpperChar c]
  else
    match upperSpecials.lookup c.toNat with
    | some image => image.map Char.ofNat
    | none => [mapByRuns upperRuns c]

/-- The first character that is not case-ignorable exists and is cased. -/
def meetsCased : List Char → Bool
  | [] => false
  | c :: rest =>
    if inRanges caseIgnorableRanges c.toNat then meetsCased rest
    else inRanges casedRanges c.toNat

/-- **Lower case in context.** `before` holds the characters already passed, nearest first: a capital
sigma after a cased letter and before none is final. -/
def lowerFrom (before : List Char) : List Char → List Char
  | [] => []
  | c :: rest =>
    (if c = 'Σ' then [if meetsCased before && !meetsCased rest then 'ς' else 'σ'] else lowerChar c)
      ++ lowerFrom (c :: before) rest

/-- The lower-case form of a list of characters. -/
def lowerChars (s : List Char) : List Char :=
  lowerFrom [] s

/-- **Lower case.** -/
def lower (s : String) : String :=
  String.ofList (lowerChars s.toList)

/-- **Upper case.** -/
def upper (s : String) : String :=
  String.ofList (s.toList.flatMap upperChar)

end GrantProbe.Text
