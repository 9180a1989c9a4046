import Mathlib.Data.List.TakeDrop
import Mathlib.Data.List.TakeWhile
import GrantProbe.Http.Url
import GrantProbe.Proofs.Http.Percent
import GrantProbe.Proofs.Text.Pieces

/-!
# Addresses below an address

A web address with a slash and a text behind it is read as that address with the segments of the text
behind its own. What the text says is not always what is read: it may end in a query, climb with dots, or
hold escapes. A *literal* text is one that is read as it stands.

* `cutAt_append`, `exists_cutScheme?_append`, `exists_webParts?_append`: the parts of an address, with a
  text behind it;
* `resolve_append`: dots are resolved from left to right, from the places that `walk` has reached;
* `Url.below`: what is read of a text behind places; `Anchors`: an address behind which texts are read so;
  `IsBase.exists_anchors`: a web address without query and fragment is one; `Anchors.append`;
* `isPlain`, `isLiteral`: nothing in the text is dropped, resolved or decoded; `below_of_isLiteral`.
-/

namespace GrantProbe

/-! ## Lists with a mark in between -/

section
variable {α : Type} {p : α → Bool} {m : α}

theorem dropWhile_append_cons (hm : p m = false) (x y : List α) :
    (x ++ m :: y).dropWhile p = x.dropWhile p ++ m :: y := by
  induction x with
  | nil => rw [List.nil_append, List.dropWhile_nil, List.dropWhile_cons, hm]; rfl
  | cons a rest ih =>
    rw [List.cons_append, List.dropWhile_cons, List.dropWhile_cons, ih]
    split <;> rfl

theorem takeWhile_append_cons (hm : p m = false) (x y : List α) :
    (x ++ m :: y).takeWhile p = x.takeWhile p := by
  induction x with
  | nil => rw [List.nil_append, List.takeWhile_nil, List.takeWhile_cons, hm]; rfl
  | cons a rest ih => rw [List.cons_append, List.takeWhile_cons, List.takeWhile_cons, ih]

end

theorem toList_append_slash (x y : String) :
    (x ++ "/" ++ y).toList = x.toList ++ '/' :: y.toList := by
  rw [String.toList_append, String.toList_append, List.append_assoc]
  rfl

namespace Text

theorem stripEnd_append_cons {p : Char → Bool} {m : Char} (hm : p m = false) (x y : List Char) :
    stripEnd p (x ++ m :: y) = x ++ m :: stripEnd p y := by
  unfold stripEnd
  rw [List.reverse_append, List.reverse_cons, List.append_assoc, List.singleton_append,
    dropWhile_append_cons hm, List.reverse_append, List.reverse_cons, List.reverse_reverse,
    List.append_assoc, List.singleton_append]

end Text

namespace Http

section
variable {isMark : Char → Bool}

theorem cutAt_nil : cutAt isMark [] = ([], none) := rfl

theorem cutAt_cons (c : Char) (rest : List Char) : cutAt isMark (c :: rest) =
    if isMark c then ([], some rest) else (c :: (cutAt isMark rest).1, (cutAt isMark rest).2) := by
  unfold cutAt
  simp only [List.span_eq_takeWhile_dropWhile, List.takeWhile_cons, List.dropWhile_cons]
  rcases isMark c with _ | _
  · rcases rest.dropWhile (!isMark ·) with _ | ⟨d, after⟩ <;> rfl
  · rfl

/-- **Cutting a text in two parts:** at the first mark of the first part, or else in the second. -/
theorem cutAt_append (x y : List Char) : cutAt isMark (x ++ y) =
    match cutAt isMark x with
    | (before, some after) => (before, some (after ++ y))
    | (_, none) => (x ++ (cutAt isMark y).1, (cutAt isMark y).2) := by
  induction x with
  | nil => rfl
  | cons c rest ih =>
    rw [List.cons_append, cutAt_cons, cutAt_cons, ih]
    rcases isMark c with _ | _
    · simp only [Bool.false_eq_true, if_false]
      rcases cutAt isMark rest with ⟨before, _ | after⟩ <;> rfl
    · rfl

theorem cutAt_of_none {x : List Char} (h : (cutAt isMark x).2 = none) (y : List Char) :
    cutAt isMark (x ++ y) = (x ++ (cutAt isMark y).1, (cutAt isMark y).2) := by
  rw [cutAt_append]
  rcases hx : cutAt isMark x with ⟨before, _ | after⟩
  · rfl
  · rw [hx] at h
    cases h

theorem cutAt_fst_of_none {x : List Char} (h : (cutAt isMark x).2 = none) : (cutAt isMark x).1 = x := by
  have hall := cutAt_of_none h []
  rw [cutAt_nil, List.append_nil] at hall
  rw [hall]

theorem cutAt_of_all {x : List Char} (h : ∀ c ∈ x, isMark c = false) : cutAt isMark x = (x, none) := by
  induction x with
  | nil => rfl
  | cons c rest ih =>
    rw [cutAt_cons, h c List.mem_cons_self, ih fun d hd => h d (List.mem_cons_of_mem c hd)]
    rfl

theorem cutAt_append_cons {x : List Char} {m : Char} (hx : ∀ c ∈ x, isMark c = false)
    (hm : isMark m = false) (y : List Char) :
    cutAt isMark (x ++ m :: y) = (x ++ m :: (cutAt isMark y).1, (cutAt isMark y).2) := by
  rw [cutAt_of_none (by rw [cutAt_of_all hx]), cutAt_cons, hm]
  rfl

theorem of_mem_cutAt (isMark : Char → Bool) {x : List Char} {c : Char} (h : c ∈ (cutAt isMark x).1) :
    isMark c = false := by
  induction x with
  | nil => exact absurd h List.not_mem_nil
  | cons d rest ih =>
    rw [cutAt_cons] at h
    rcases hd : isMark d with _ | _ <;> rw [hd] at h
    · rcases List.mem_cons.mp h with rfl | h
      · exact hd
      · exact ih h
    · exact absurd h List.not_mem_nil

theorem cutAt_sublist (x : List Char) : (cutAt isMark x).1.Sublist x := by
  induction x with
  | nil => exact List.Sublist.refl _
  | cons c rest ih =>
    rw [cutAt_cons]
    split
    · exact List.nil_sublist _
    · exact ih.cons_cons c

end

/-! ## Dots, from left to right -/

/-- **The places that are reached** by segments that are read from `above`, the last one first. -/
def walk (above : List (List Char)) : List (List Char) → List (List Char)
  | [] => above
  | segment :: rest =>
    if isDoubleDot segment then walk (climb above) rest
    else if isSingleDot segment then walk above rest
    else walk (segment :: above) rest

theorem resolve_cons {segments : List (List Char)} (hne : segments ≠ []) (above : List (List Char))
    (segment : List Char) : resolve above (segment :: segments) =
      if isDoubleDot segment then resolve (climb above) segments
      else if isSingleDot segment then resolve above segments
      else resolve (segment :: above) segments := by
  cases segments with
  | nil => exact absurd rfl hne
  | cons next rest =>
    rw [resolve]
    exact hne

theorem resolve_append {ys : List (List Char)} (hne : ys ≠ []) (above xs : List (List Char)) :
    resolve above (xs ++ ys) = resolve (walk above xs) ys := by
  induction xs generalizing above with
  | nil => rfl
  | cons x rest ih =>
    rw [List.cons_append, resolve_cons (List.append_ne_nil_of_right_ne_nil rest hne), ih, ih, ih, walk]
    split_ifs <;> rfl

theorem isPlace_iff {segment : List Char} :
    isPlace segment = true ↔ isDoubleDot segment = false ∧ isSingleDot segment = false := by
  unfold isPlace
  rw [Bool.not_eq_true', Bool.or_eq_false_iff, and_comm]

theorem walk_of_places {xs : List (List Char)} (hxs : ∀ x ∈ xs, isPlace x = true)
    (above : List (List Char)) : walk above xs = xs.reverse ++ above := by
  induction xs generalizing above with
  | nil => rfl
  | cons x rest ih =>
    obtain ⟨hdouble, hsingle⟩ := isPlace_iff.mp (hxs x List.mem_cons_self)
    rw [walk, hdouble, hsingle, if_neg Bool.false_ne_true, if_neg Bool.false_ne_true,
      ih fun y hy => hxs y (List.mem_cons_of_mem x hy), List.reverse_cons, List.append_assoc,
      List.singleton_append]

theorem resolve_cons_of_place {x : List Char} (hx : isPlace x = true) (above rest : List (List Char)) :
    resolve above (x :: rest) = resolve (x :: above) rest := by
  obtain ⟨hdouble, hsingle⟩ := isPlace_iff.mp hx
  cases rest with
  | nil => simp only [resolve, hdouble, hsingle, Bool.false_eq_true, if_false]
  | cons y more =>
    rw [resolve_cons (List.cons_ne_nil y more), hdouble, hsingle, if_neg Bool.false_ne_true,
      if_neg Bool.false_ne_true]

theorem resolve_of_places {xs : List (List Char)} (hxs : ∀ x ∈ xs, isPlace x = true)
    (above : List (List Char)) : resolve above xs = above.reverse ++ xs := by
  induction xs generalizing above with
  | nil => rw [resolve, List.append_nil]
  | cons x rest ih =>
    rw [resolve_cons_of_place (hxs x List.mem_cons_self),
      ih fun y hy => hxs y (List.mem_cons_of_mem x hy), List.reverse_cons, List.append_assoc,
      List.singleton_append]

/-- Nothing above is left by segments that do not climb. -/
theorem prefix_resolve {xs : List (List Char)} (hxs : ∀ x ∈ xs, isDoubleDot x = false)
    (above : List (List Char)) : above.reverse <+: resolve above xs := by
  induction xs generalizing above with
  | nil => exact List.prefix_refl _
  | cons x rest ih =>
    have hx : isDoubleDot x = false := hxs x List.mem_cons_self
    have hrest := ih fun y hy => hxs y (List.mem_cons_of_mem x hy)
    have hmore (s : List Char) : above.reverse <+: (s :: above).reverse := by
      rw [List.reverse_cons]
      exact List.prefix_append _ _
    cases rest with
    | nil =>
      rw [resolve, hx, if_neg Bool.false_ne_true]
      split_ifs
      · exact hmore []
      · exact hmore x
    | cons y more =>
      rw [resolve_cons (List.cons_ne_nil y more), hx, if_neg Bool.false_ne_true]
      split_ifs
      · exact hrest above
      · exact (hmore x).trans (hrest _)

/-! ## What is read behind an address -/

/-- **What is left of a text at the end of an address:** edges behind it and ignored characters are
dropped. -/
def kept (cs : List Char) : List Char := (Text.stripEnd Url.isEdge cs).filter (!Url.isIgnored ·)

/-- **The path in a text** at the end of an address, in front of its query and its fragment. -/
def pathIn (cs : List Char) : List Char := (cutAt (· == '?') (cutAt (· == '#') (kept cs)).1).1

/-- **What is read of a text behind places.** -/
def Url.below (u : Url) (above : List (List Char)) (cs : List Char) : Url :=
  { u with
    path := .segments ((resolve above (segmentsOf true (pathIn cs))).map segmentText)
    query := (cutAt (· == '?') (cutAt (· == '#') (kept cs)).1).2.map
      (encodedText (SchemeKind.of u.scheme).encodedInQuery)
    fragment := (cutAt (· == '#') (kept cs)).2.map (encodedText encodedInFragment) }

/-- **Texts behind an address** are read behind its places. -/
def Anchors (base : String) (u : Url) (above : List (List Char)) : Prop :=
  ∀ t : String, Url.parse? (base ++ "/" ++ t) = some (u.below above t.toList)

/-- **A base:** with a slash behind it, it stands for a web address without query and fragment. -/
structure IsBase (base : String) (u : Url) : Prop where
  parse : Url.parse? (base ++ "/") = some u
  web : SchemeKind.of u.scheme = .web
  query : u.query = none
  fragment : u.fragment = none

theorem segmentsOf_append_slash (x y : List Char) :
    segmentsOf true (x ++ '/' :: y) = segmentsOf true x ++ segmentsOf true y := by
  unfold segmentsOf
  rw [List.map_append, List.map_cons]
  exact Text.splitAtEach_append '/' _ _

theorem segmentsOf_ne_nil (cs : List Char) : segmentsOf true cs ≠ [] := Text.splitAtEach_ne_nil _ _

theorem exists_pathOf_append {start : List Char} (hstart : ∀ c ∈ start.head?, isSlash true c = true) :
    ∃ above, ∀ rest, pathOf true (start ++ '/' :: rest) =
      (resolve above (segmentsOf true rest)).map segmentText := by
  cases start with
  | nil => exact ⟨[], fun rest => rfl⟩
  | cons c more =>
    refine ⟨walk [] (segmentsOf true more), fun rest => ?_⟩
    have hplaces : placesOf true (c :: more ++ '/' :: rest) =
        resolve [] (segmentsOf true (more ++ '/' :: rest)) := by
      simp only [placesOf, List.cons_append, hstart c rfl, if_true]
    rw [pathOf, hplaces, segmentsOf_append_slash, resolve_append (segmentsOf_ne_nil rest)]

theorem exists_clean_append (x : List Char) : ∃ start, ∀ y,
    (Text.stripBoth Url.isEdge (x ++ '/' :: y)).filter (!Url.isIgnored ·) = start ++ '/' :: kept y := by
  refine ⟨(x.dropWhile Url.isEdge).filter (!Url.isIgnored ·), fun y => ?_⟩
  have hstrip : Text.stripBoth Url.isEdge (x ++ '/' :: y) =
      x.dropWhile Url.isEdge ++ '/' :: Text.stripEnd Url.isEdge y := by
    rw [Text.stripBoth, dropWhile_append_cons (by decide)]
    exact Text.stripEnd_append_cons (by decide) _ y
  rw [hstrip, List.filter_append, List.filter_cons_of_pos (by decide), kept]

theorem exists_cutScheme?_append {start : List Char} {scheme : String} {after : List Char}
    (h : cutScheme? (start ++ ['/']) = some (scheme, after)) : ∃ rest, after = rest ++ ['/'] ∧
      ∀ y, cutScheme? (start ++ '/' :: y) = some (scheme, rest ++ '/' :: y) := by
  unfold cutScheme? at h ⊢
  simp only [cutAt_append] at h ⊢
  rcases hcut : cutAt (· == ':') start with ⟨before, _ | rest⟩ <;> rw [hcut] at h
  · -- A slash is no colon, so the first part has it.
    have hslash : cutAt (· == ':') ['/'] = (['/'], none) := rfl
    rw [hslash] at h
    simp at h
  · refine ⟨rest, ?_, fun y => ?_⟩
    · split at h
      · next heq =>
        obtain ⟨-, hrest⟩ := Prod.mk.inj heq
        split_ifs at h
        rw [← (Prod.mk.inj (Option.some.inj h)).2, ← Option.some.inj hrest]
      · cases h
    · cases before with
      | nil => simp at h
      | cons c name =>
        simp only at h ⊢
        split_ifs at h ⊢ with hname
        rw [(Prod.mk.inj (Option.some.inj h)).1]

theorem webParts?_eq (scheme : String) (cs : List Char) : Url.webParts? scheme cs =
    (Authority.parse? .web scheme ((cs.dropWhile (isSlash true)).takeWhile (!isSlash true ·))).map
      fun a => (a, .segments (pathOf true ((cs.dropWhile (isSlash true)).dropWhile (!isSlash true ·)))) := by
  have hcut : Url.cutPath .web (cs.dropWhile (isSlash true)) =
      ((cs.dropWhile (isSlash true)).takeWhile (!isSlash true ·),
        (cs.dropWhile (isSlash true)).dropWhile (!isSlash true ·)) :=
    List.span_eq_takeWhile_dropWhile ..
  rw [Url.webParts?, hcut]
  simp only
  rcases Authority.parse? .web scheme ((cs.dropWhile (isSlash true)).takeWhile (!isSlash true ·)) with
    _ | a <;> rfl

theorem parse?_web_nil (scheme : String) : Authority.parse? .web scheme [] = none := rfl

theorem exists_webParts?_append {scheme : String} {start : List Char} {authority : Authority}
    {path : UrlPath} (h : Url.webParts? scheme (start ++ ['/']) = some (authority, path)) :
    ∃ above, ∀ y, Url.webParts? scheme (start ++ '/' :: y) =
      some (authority, .segments ((resolve above (segmentsOf true y)).map segmentText)) := by
  rw [webParts?_eq] at h
  simp only [webParts?_eq]
  -- Nothing but slashes has no authority, so the slashes in front end in the first part.
  have hne : start.dropWhile (isSlash true) ≠ [] := by
    intro hnil
    have hall : (start ++ ['/']).dropWhile (isSlash true) = [] := by
      rw [List.dropWhile_append, hnil]
      rfl
    rw [hall, List.takeWhile_nil, parse?_web_nil] at h
    cases h
  have hdrop (y : List Char) : (start ++ '/' :: y).dropWhile (isSlash true) =
      start.dropWhile (isSlash true) ++ '/' :: y := by
    rw [List.dropWhile_append, if_neg]
    rwa [List.isEmpty_iff]
  have hslash : (!isSlash true '/') = false := by decide
  have hhead : ∀ c ∈ ((start.dropWhile (isSlash true)).dropWhile (!isSlash true ·)).head?,
      isSlash true c = true := by
    intro c hc
    have hnot := List.head?_dropWhile_not (!isSlash true ·) (start.dropWhile (isSlash true))
    rw [hc] at hnot
    simpa using hnot
  obtain ⟨above, habove⟩ := exists_pathOf_append hhead
  refine ⟨above, fun y => ?_⟩
  rw [hdrop, takeWhile_append_cons (p := (!isSlash true ·)) hslash] at h
  rw [hdrop, takeWhile_append_cons (p := (!isSlash true ·)) hslash,
    dropWhile_append_cons (p := (!isSlash true ·)) hslash, habove]
  obtain ⟨a, ha, hpair⟩ := Option.map_eq_some_iff.mp h
  rw [ha, Option.map_some, (Prod.mk.inj hpair).1]

theorem parse?_of_cutScheme? {s scheme : String} {rest : List Char}
    (h : cutScheme? ((Text.stripBoth Url.isEdge s.toList).filter (!Url.isIgnored ·)) =
      some (scheme, rest)) :
    Url.parse? s = (Url.parts? (SchemeKind.of scheme) scheme
        (cutAt (· == '?') (cutAt (· == '#') rest).1).1).map fun x =>
      ⟨scheme, x.1, x.2, (cutAt (· == '?') (cutAt (· == '#') rest).1).2.map
        (encodedText (SchemeKind.of scheme).encodedInQuery),
        (cutAt (· == '#') rest).2.map (encodedText encodedInFragment)⟩ := by
  unfold Url.parse?
  rw [h]
  simp only [Option.bind_eq_bind, Option.bind_some]
  rcases Url.parts? (SchemeKind.of scheme) scheme (cutAt (· == '?') (cutAt (· == '#') rest).1).1 with
    _ | x <;> rfl

/-- **What a base is made of:** a scheme, an authority, and places behind which its texts are read. -/
theorem IsBase.exists_parts {base : String} {u : Url} (h : IsBase base u) :
    ∃ start scheme rest authority above,
      (∀ t : String, (Text.stripBoth Url.isEdge (base ++ "/" ++ t).toList).filter (!Url.isIgnored ·) =
        start ++ '/' :: kept t.toList) ∧
      (∀ y, cutScheme? (start ++ '/' :: y) = some (scheme, rest ++ '/' :: y)) ∧
      (cutAt (· == '#') (rest ++ ['/'])).2 = none ∧ (cutAt (· == '?') (rest ++ ['/'])).2 = none ∧
      (∀ y, Url.webParts? scheme (rest ++ '/' :: y) =
        some (authority, .segments ((resolve above (segmentsOf true y)).map segmentText))) ∧
      u.scheme = scheme ∧ u.authority = some authority := by
  obtain ⟨start, hclean⟩ := exists_clean_append base.toList
  have hread (t : String) : (Text.stripBoth Url.isEdge (base ++ "/" ++ t).toList).filter
      (!Url.isIgnored ·) = start ++ '/' :: kept t.toList := by
    rw [toList_append_slash]
    exact hclean t.toList
  have hbase : (Text.stripBoth Url.isEdge (base ++ "/").toList).filter (!Url.isIgnored ·) =
      start ++ ['/'] := by
    have hempty := hread ""
    rw [String.append_empty] at hempty
    exact hempty
  have hparse := h.parse
  rcases hcut : cutScheme? (start ++ ['/']) with _ | ⟨scheme, after⟩
  · unfold Url.parse? at hparse
    rw [hbase, hcut] at hparse
    cases hparse
  obtain ⟨rest, rfl, hscheme⟩ := exists_cutScheme?_append hcut
  rw [parse?_of_cutScheme? (hbase.symm ▸ hcut)] at hparse
  obtain ⟨x, hparts, rfl⟩ := Option.map_eq_some_iff.mp hparse
  have hfragment : (cutAt (· == '#') (rest ++ ['/'])).2 = none := Option.map_eq_none_iff.mp h.fragment
  have hquery := Option.map_eq_none_iff.mp h.query
  rw [cutAt_fst_of_none hfragment] at hquery hparts
  rw [cutAt_fst_of_none hquery, h.web] at hparts
  obtain ⟨⟨authority, path⟩, hweb, rfl⟩ := Option.map_eq_some_iff.mp hparts
  obtain ⟨above, habove⟩ := exists_webParts?_append hweb
  exact ⟨start, scheme, rest, authority, above, hread, hscheme, hfragment, hquery, habove, rfl, rfl⟩

/-- **Texts behind a base** are read behind the places of its path. -/
theorem IsBase.exists_anchors {base : String} {u : Url} (h : IsBase base u) :
    ∃ above, Anchors base u above := by
  obtain ⟨start, scheme, rest, authority, above, hread, hscheme, hfragment, hquery, habove, rfl, ha⟩ :=
    h.exists_parts
  refine ⟨above, fun t => ?_⟩
  have hbehind (y : List Char) : rest ++ '/' :: y = rest ++ ['/'] ++ y := by
    rw [List.append_assoc, List.singleton_append]
  have hcut := hscheme (kept t.toList)
  rw [← hread t] at hcut
  rw [parse?_of_cutScheme? hcut, hbehind, cutAt_of_none hfragment]
  simp only
  rw [cutAt_of_none hquery, ← hbehind, h.web]
  simp only [Url.parts?, habove, Option.map_some, Url.below, pathIn, h.web, ha]

/-! ## Texts that are read as they stand -/

/-- The character stands for itself in a path. -/
def isOrdinary (c : Char) : Bool := !(Url.isIgnored c || c == '#' || c == '?' || c == '\\')

/-- The segment names a place, and stands for its own bytes. -/
def isName (segment : List Char) : Bool := isPlace segment && !hasEscape segment

/-- **Nothing in the text** is dropped, resolved or decoded where more of a path follows it. -/
def isPlain (cs : List Char) : Bool := cs.all isOrdinary && (Text.splitAtEach '/' cs).all isName

/-- **The text is read as it stands** at the end of an address: it does not end in an edge either. -/
def isLiteral (cs : List Char) : Bool := isPlain cs && !cs.getLast?.any Url.isEdge

section
variable {cs : List Char}

theorem ordinary_of_isPlain (h : isPlain cs = true) {c : Char} (hc : c ∈ cs) :
    Url.isIgnored c = false ∧ (c == '#') = false ∧ (c == '?') = false ∧ c ≠ '\\' := by
  have hall := List.all_eq_true.mp ((Bool.and_eq_true _ _).mp h).1 c hc
  simpa [isOrdinary, and_assoc] using hall

theorem names_of_isPlain (h : isPlain cs = true) {segment : List Char}
    (hs : segment ∈ Text.splitAtEach '/' cs) : isPlace segment = true ∧ hasEscape segment = false := by
  have hall := List.all_eq_true.mp ((Bool.and_eq_true _ _).mp h).2 segment hs
  simpa [isName] using hall

theorem isPlain_append {x y : String} (hx : isPlain x.toList = true) (hy : isPlain y.toList = true) :
    isPlain (x ++ "/" ++ y).toList = true := by
  obtain ⟨hx, hxs⟩ := (Bool.and_eq_true _ _).mp hx
  obtain ⟨hy, hys⟩ := (Bool.and_eq_true _ _).mp hy
  have hslash : isOrdinary '/' = true := by decide
  rw [toList_append_slash, isPlain, Text.splitAtEach_append, List.all_append, List.all_append,
    List.all_cons, hx, hy, hxs, hys, hslash]
  rfl

theorem stripEnd_eq_self_iff {p : Char → Bool} :
    Text.stripEnd p cs = cs ↔ cs.getLast?.any p = false := by
  have hreverse : Text.stripEnd p cs = cs ↔ cs.reverse.dropWhile p = cs.reverse := by
    rw [Text.stripEnd, List.reverse_eq_iff]
  rw [hreverse, List.dropWhile_eq_self_iff, List.getLast?_eq_head?_reverse]
  cases cs.reverse with
  | nil => simp
  | cons c rest => simp

theorem segmentsOf_of_not_mem (h : ∀ c ∈ cs, c ≠ '\\') :
    segmentsOf true cs = Text.splitAtEach '/' cs := by
  have hmap : (cs.map fun c => if isSlash true c then '/' else c) = cs := by
    refine (List.map_congr_left fun c hc => ?_).trans (List.map_id cs)
    have hslash : isSlash true c = (c == '/') := by simp [isSlash, h c hc]
    rw [hslash]
    split_ifs with heq
    · exact (beq_iff_eq.mp heq).symm
    · rfl
  rw [segmentsOf, hmap]

theorem filter_isIgnored_of_isPlain (h : isPlain cs = true) : cs.filter (!Url.isIgnored ·) = cs :=
  List.filter_eq_self.mpr fun c hc => by rw [(ordinary_of_isPlain h hc).1]; rfl

theorem below_append_of_isPlain (h : isPlain cs = true) (u : Url) (above : List (List Char))
    (rest : List Char) : u.below above (cs ++ '/' :: rest) =
      u.below ((Text.splitAtEach '/' cs).reverse ++ above) rest := by
  have hkept : kept (cs ++ '/' :: rest) = cs ++ '/' :: kept rest := by
    rw [kept, Text.stripEnd_append_cons (by decide), List.filter_append,
      List.filter_cons_of_pos (by decide), filter_isIgnored_of_isPlain h, kept]
  have hfragment (y : List Char) : cutAt (· == '#') (cs ++ '/' :: y) =
      (cs ++ '/' :: (cutAt (· == '#') y).1, (cutAt (· == '#') y).2) :=
    cutAt_append_cons (fun c hc => (ordinary_of_isPlain h hc).2.1) (by decide) y
  have hquery (y : List Char) : cutAt (· == '?') (cs ++ '/' :: y) =
      (cs ++ '/' :: (cutAt (· == '?') y).1, (cutAt (· == '?') y).2) :=
    cutAt_append_cons (fun c hc => (ordinary_of_isPlain h hc).2.2.1) (by decide) y
  have hsegments : segmentsOf true cs = Text.splitAtEach '/' cs :=
    segmentsOf_of_not_mem fun c hc => (ordinary_of_isPlain h hc).2.2.2
  unfold Url.below pathIn
  simp only [hkept, hfragment, hquery, segmentsOf_append_slash, resolve_append (segmentsOf_ne_nil _),
    hsegments, walk_of_places fun x hx => (names_of_isPlain h hx).1]

/-- **A plain text behind an address** makes an address behind which texts are read. -/
theorem Anchors.append {base : String} {u : Url} {above : List (List Char)} (h : Anchors base u above)
    {x : String} (hx : isPlain x.toList = true) :
    Anchors (base ++ "/" ++ x) u ((Text.splitAtEach '/' x.toList).reverse ++ above) := by
  intro t
  have htext : base ++ "/" ++ x ++ "/" ++ t = base ++ "/" ++ (x ++ "/" ++ t) := by
    simp only [String.append_assoc]
  rw [htext, h, toList_append_slash, below_append_of_isPlain hx]

/-- **A literal text** is all path. -/
theorem below_of_isLiteral (h : isLiteral cs = true) (u : Url) (above : List (List Char)) :
    u.below above cs =
      { u with
        path := .segments ((above.reverse ++ Text.splitAtEach '/' cs).map segmentText)
        query := none
        fragment := none } := by
  obtain ⟨hplain, hend⟩ := (Bool.and_eq_true _ _).mp h
  have hkept : kept cs = cs := by
    rw [kept, stripEnd_eq_self_iff.mpr (by simpa using hend), filter_isIgnored_of_isPlain hplain]
  have hfragment : cutAt (· == '#') cs = (cs, none) :=
    cutAt_of_all fun c hc => (ordinary_of_isPlain hplain hc).2.1
  have hquery : cutAt (· == '?') cs = (cs, none) :=
    cutAt_of_all fun c hc => (ordinary_of_isPlain hplain hc).2.2.1
  have hsegments : segmentsOf true cs = Text.splitAtEach '/' cs :=
    segmentsOf_of_not_mem fun c hc => (ordinary_of_isPlain hplain hc).2.2.2
  unfold Url.below pathIn
  simp only [hkept, hfragment, hquery, hsegments, Option.map_none,
    resolve_of_places fun x hx => (names_of_isPlain hplain hx).1]

end

end Http

end GrantProbe
