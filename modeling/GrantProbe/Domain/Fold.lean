import GrantProbe.Domain.FoldTable
import GrantProbe.Text.Case
import GrantProbe.Text.PrintTable
import GrantProbe.Text.Search

/-!
# Characters of domain names

Domain names are the same whatever the case of their letters, and variants of a character count as the
character. Some characters do not count at all, and some make a text no domain name.

* `foldChar?`: what a character counts as;
* `fold?`: what a text counts as.
-/

namespace GrantProbe.Domain

open Text (inRanges)

/-- The image of a code point in the table of images. -/
def listedImage? (n : Nat) : Option (List Char) :=
  (foldImages.filter fun e => e.1 ≤ n && n < e.1 + e.2.length).findSome? fun (first, images) =>
    (Text.splitAtEach ' ' images.toList)[n - first]?

/-- The image of a code point, if the table of runs or that of images has it. -/
def image? (n : Nat) : Option (List Char) :=
  match foldRuns.findSome? (Text.CaseRun.image? · n) with
  | some m => some [Char.ofNat m]
  | none => listedImage? n

/-- **What a character counts as** in a domain name; nothing if no domain name has it. -/
def foldChar? (c : Char) : Option (List Char) :=
  let n := c.toNat
  if n < 0x80 then some [Text.asciiLowerChar c]
  else if inRanges keptRanges n then some [c]
  else if inRanges droppedRanges n then some []
  else
    match image? n with
    | some image => some image
    | none =>
      if inRanges Text.unprintableRanges n || inRanges refusedRanges n then none
      else some (Text.lowerChar c)

/-- **What a text counts as.** -/
def fold? : List Char → Option (List Char)
  | [] => some []
  | c :: rest => do return (← foldChar? c) ++ (← fold? rest)

end GrantProbe.Domain
