import GrantProbe.Http.Encode
import GrantProbe.Text.Search

/-!
# Paths of addresses

A path is a sequence of segments, each after a slash. A segment of one dot stands for the same place, and one of
two dots for the place above, which is never above a drive.

* `segmentsOf`: the segments of a text;
* `resolve`: the segments once dots are resolved;
* `pathOf`: the path of an address.
-/

namespace GrantProbe.Http

/-- What separates segments: a slash, and in some addresses a backslash. -/
def isSlash (backslashes : Bool) (c : Char) : Bool := c == '/' || (backslashes && c == '\\')

/-- The segments of a path, as they stand between slashes. -/
def segmentsOf (backslashes : Bool) (cs : List Char) : List (List Char) :=
  Text.splitAtEach '/' (cs.map fun c => if isSlash backslashes c then '/' else c)

/-! ## Dots -/

/-- A segment with encoded dots decoded. -/
def plainDots (segment : List Char) : List Char :=
  match segment with
  | '%' :: '2' :: e :: rest => if e = 'e' ∨ e = 'E' then '.' :: plainDots rest else segment
  | '.' :: rest => '.' :: plainDots rest
  | _ => segment

/-- The segment stands for the same place. -/
def isSingleDot (segment : List Char) : Bool := plainDots segment == ['.']

/-- The segment stands for the place above. -/
def isDoubleDot (segment : List Char) : Bool := plainDots segment == ['.', '.']

/-- The segment names a drive, and what follows may be a path on it. -/
def beginsWithDrive : List Char → Bool
  | a :: b :: rest => a.isAlpha && (b == ':' || b == '|') && (rest.isEmpty || rest.head? == some '\\')
  | _ => false

/-- The segment names a drive. -/
def isDrive (segment : List Char) : Bool := segment.length == 2 && beginsWithDrive segment

/-- The place above, of which the last segment comes first. A drive has none. -/
def climb : List (List Char) → List (List Char)
  | [] => []
  | segment :: above => if beginsWithDrive segment then segment :: above else above

/-- **The segments of a path once dots are resolved,** in front of which `above` have been read, the last one
first. A path that ends in dots ends in an empty segment. -/
def resolve (above : List (List Char)) : List (List Char) → List (List Char)
  | [] => above.reverse
  | [last] =>
    if isDoubleDot last then ([] :: climb above).reverse
    else if isSingleDot last then ([] :: above).reverse
    else (last :: above).reverse
  | segment :: rest =>
    if isDoubleDot segment then resolve (climb above) rest
    else if isSingleDot segment then resolve above rest
    else resolve (segment :: above) rest

/-- A segment is a place of its own: it stands neither for the same place nor for the one above. -/
def isPlace (segment : List Char) : Bool := !(isSingleDot segment || isDoubleDot segment)

theorem mem_of_mem_climb {above : List (List Char)} {segment : List Char} (h : segment ∈ climb above) :
    segment ∈ above := by
  cases above with
  | nil => simp [climb] at h
  | cons a rest =>
    by_cases hd : beginsWithDrive a = true
    · simpa [climb, hd] using h
    · simp only [climb, hd] at h
      exact List.mem_cons_of_mem a h

theorem isPlace_of_mem_resolve {above segments : List (List Char)} {segment : List Char}
    (ha : ∀ s ∈ above, isPlace s = true) (h : segment ∈ resolve above segments) :
    isPlace segment = true := by
  induction segments generalizing above with
  | nil => exact ha segment (by simpa [resolve] using h)
  | cons s rest ih =>
    have hc : ∀ t ∈ climb above, isPlace t = true := fun t ht => ha t (mem_of_mem_climb ht)
    have hempty : isPlace [] = true := by decide
    cases rest with
    | nil =>
      unfold resolve at h
      split at h
      · simp only [List.mem_reverse, List.mem_cons] at h
        rcases h with rfl | h
        · exact hempty
        · exact hc segment h
      · split at h
        · simp only [List.mem_reverse, List.mem_cons] at h
          rcases h with rfl | h
          · exact hempty
          · exact ha segment h
        · simp only [List.mem_reverse, List.mem_cons] at h
          rcases h with rfl | h
          · simp [isPlace, *]
          · exact ha segment h
    | cons t tail =>
      unfold resolve at h
      split at h
      · exact ih hc h
      · split at h
        · exact ih ha h
        · refine ih (fun u hu => ?_) h
          rcases List.mem_cons.1 hu with rfl | hu
          · simp [isPlace, *]
          · exact ha u hu

/-! ## Paths -/

/-- The segments of a text that follows the beginning of an address, without its first slash. -/
def placesOf (backslashes : Bool) (cs : List Char) : List (List Char) :=
  let below :=
    match cs with
    | c :: rest => if isSlash backslashes c then rest else cs
    | [] => []
  resolve [] (segmentsOf backslashes below)

/-- A segment as text. -/
def segmentText (segment : List Char) : String := encodedText encodedInPath segment

/-- **The segments of a path,** encoded. -/
def pathOf (backslashes : Bool) (cs : List Char) : List String :=
  (placesOf backslashes cs).map segmentText

/-- A segment that names a drive, with a colon. -/
def withColon (segment : List Char) : List Char :=
  if isDrive segment then segment.take 1 ++ [':'] else segment

/-- The segments of the path of a file, encoded. Empty ones in front are left out. -/
def filePathOf (places : List (List Char)) : List String :=
  match (places.map withColon).dropWhile List.isEmpty with
  | [] => [""]
  | kept => kept.map segmentText

end GrantProbe.Http
