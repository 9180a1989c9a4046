import GrantProbe.Proofs.Http.Below

/-!
# The names that a server reads

A server reads the path of an address as names, each of which is a segment with its escapes decoded. The
names of a text are read behind those of an address exactly if the text is literal: whatever is dropped,
resolved or decoded leaves fewer bytes, and a backslash that is read as a slash leaves more names.

* `Url.names`, `Url.placeNames`: the names in an address; `namesIn`: the names in a text;
  `namesIn_injective`: different texts have different names;
* `weight`: the bytes of names, with one for each; `weight_resolve_le`, `weight_decode_le`: what dots and
  escapes take away;
* `names_below_eq_iff`: when the names of a text are read behind places;
  `IsBase.exists_read`: what is read behind a base.
-/

namespace GrantProbe.Http

/-! ## Names -/

/-- The names in a path. -/
def UrlPath.names : UrlPath → List Bytes
  | .segments parts => parts.map fun part => percentDecode part.toList
  | .plain text => [percentDecode text.toList]

/-- **The names that a server reads** in an address. -/
def Url.names (u : Url) : List Bytes := u.path.names

/-- The names of the places in an address, without the one behind the last slash. -/
def Url.placeNames (u : Url) : List Bytes := u.names.dropLast

/-- **The names in a text** with slashes between them. -/
def namesIn (t : String) : List Bytes := (Text.pieces '/' t).map utf8Bytes

theorem namesIn_eq (t : String) : namesIn t = (Text.splitAtEach '/' t.toList).map bytesOf := by
  rw [namesIn, Text.pieces, List.map_map]
  rfl

/-- **Different texts have different names.** -/
theorem namesIn_injective : Function.Injective namesIn := by
  intro s t h
  rw [namesIn_eq, namesIn_eq] at h
  have hparts := List.map_injective_iff.mpr bytesOf_injective h
  refine String.toList_injective ?_
  rw [← Text.intercalate_splitAtEach '/' s.toList, hparts, Text.intercalate_splitAtEach]

theorem namesIn_append (x y : String) : namesIn (x ++ "/" ++ y) = namesIn x ++ namesIn y := by
  rw [namesIn_eq, namesIn_eq, namesIn_eq, toList_append_slash, Text.splitAtEach_append, List.map_append]

theorem map_segmentText (segments : List (List Char)) :
    (segments.map segmentText).map (fun part => percentDecode part.toList) =
      segments.map percentDecode := by
  rw [List.map_map]
  refine List.map_congr_left fun s _ => ?_
  rw [Function.comp_apply, segmentText, encodedText, String.toList_ofList, percentDecode_percentEncode]

theorem map_percentDecode_of_isPlain {cs : List Char} (h : isPlain cs = true) :
    (Text.splitAtEach '/' cs).map percentDecode = (Text.splitAtEach '/' cs).map bytesOf :=
  List.map_congr_left fun _ hs => percentDecode_of_hasEscape_eq_false (names_of_isPlain h hs).2

theorem names_below (u : Url) (above : List (List Char)) (cs : List Char) : (u.below above cs).names =
    (resolve above (segmentsOf true (pathIn cs))).map percentDecode := map_segmentText _

theorem placeNames_of_anchors {base : String} {u : Url} (h : IsBase base u) {above : List (List Char)}
    (habove : Anchors base u above) : u.placeNames = above.reverse.map percentDecode := by
  have hparse := habove ""
  rw [String.append_empty, h.parse] at hparse
  have hnames : u.names = (resolve above [[]]).map percentDecode := by
    conv_lhs => rw [Option.some.inj hparse]
    exact names_below u above []
  have hlast : resolve above [[]] = above.reverse ++ [[]] := resolve_of_places (by decide) above
  rw [Url.placeNames, hnames, hlast, List.map_append, List.map_singleton, List.dropLast_concat]

/-! ## Weights -/

/-- **The bytes of names,** with one for each of them. -/
def weight : List Bytes → Nat
  | [] => 0
  | b :: rest => b.length + 1 + weight rest

theorem weight_nil : weight [] = 0 := rfl

theorem weight_cons (b : Bytes) (rest : List Bytes) : weight (b :: rest) = b.length + 1 + weight rest :=
  rfl

theorem weight_append (xs ys : List Bytes) : weight (xs ++ ys) = weight xs + weight ys := by
  induction xs with
  | nil => rw [List.nil_append, weight_nil, Nat.zero_add]
  | cons b rest ih =>
    rw [List.cons_append, weight_cons, weight_cons, ih]
    omega

theorem weight_reverse (xs : List Bytes) : weight xs.reverse = weight xs := by
  induction xs with
  | nil => rfl
  | cons b rest ih =>
    rw [List.reverse_cons, weight_append, ih, weight_cons, weight_cons, weight_nil]
    omega

theorem weight_climb_le (above : List (List Char)) :
    weight ((climb above).map percentDecode) ≤ weight (above.map percentDecode) := by
  cases above with
  | nil => exact Nat.le_refl _
  | cons s rest =>
    rw [climb]
    split_ifs
    · exact Nat.le_refl _
    · exact Nat.le_add_left _ _

theorem length_percentDecode_pos {s : List Char} (h : isPlace s = false) :
    0 < (percentDecode s).length := by
  refine List.length_pos_of_ne_nil (percentDecode_ne_nil ?_)
  rintro rfl
  exact absurd h (by decide)

/-- A segment of dots is left out, and it weighs something. -/
theorem weight_resolve_cons_lt {x : List Char} (hx : isPlace x = false) (rest : List (List Char))
    (hrest : ∀ above, weight ((resolve above rest).map percentDecode) ≤
      weight (above.map percentDecode) + weight (rest.map percentDecode)) (above : List (List Char)) :
    weight ((resolve above (x :: rest)).map percentDecode) <
      weight (above.map percentDecode) + weight ((x :: rest).map percentDecode) := by
  have hclimb := weight_climb_le above
  have hpos := length_percentDecode_pos hx
  have hdots : ¬(¬isDoubleDot x = true ∧ ¬isSingleDot x = true) := by
    rintro ⟨hdouble, hsingle⟩
    rw [isPlace_iff.mpr ⟨Bool.eq_false_iff.mpr hdouble, Bool.eq_false_iff.mpr hsingle⟩] at hx
    cases hx
  have hlast (places : List (List Char)) : weight ((([] : List Char) :: places).reverse.map percentDecode) =
      weight (places.map percentDecode) + 1 := by
    rw [List.map_reverse, weight_reverse, List.map_cons, weight_cons, percentDecode, List.length_nil]
    omega
  rw [List.map_cons, weight_cons]
  cases rest with
  | nil =>
    rw [resolve]
    split_ifs with hdouble hsingle
    · rw [hlast, List.map_nil, weight_nil]
      omega
    · rw [hlast, List.map_nil, weight_nil]
      omega
    · exact absurd ⟨hdouble, hsingle⟩ hdots
  | cons y more =>
    rw [resolve_cons (List.cons_ne_nil y more)]
    split_ifs with hdouble hsingle
    · have hle := hrest (climb above)
      omega
    · have hle := hrest above
      omega
    · exact absurd ⟨hdouble, hsingle⟩ hdots

/-- **Resolving dots adds nothing,** and takes something away if there are any. -/
theorem weight_resolve_le (above xs : List (List Char)) :
    weight ((resolve above xs).map percentDecode) ≤
        weight (above.map percentDecode) + weight (xs.map percentDecode) ∧
      ((∃ x ∈ xs, isPlace x = false) → weight ((resolve above xs).map percentDecode) <
        weight (above.map percentDecode) + weight (xs.map percentDecode)) := by
  induction xs generalizing above with
  | nil =>
    rw [resolve, List.map_reverse, weight_reverse]
    refine ⟨Nat.le_refl _, ?_⟩
    rintro ⟨x, hx, -⟩
    exact absurd hx List.not_mem_nil
  | cons x rest ih =>
    rcases hplace : isPlace x with _ | _
    · have hlt := weight_resolve_cons_lt hplace rest (fun above => (ih above).1) above
      exact ⟨Nat.le_of_lt hlt, fun _ => hlt⟩
    · obtain ⟨hle, hlt⟩ := ih (x :: above)
      rw [List.map_cons, weight_cons] at hle hlt
      rw [resolve_cons_of_place hplace, List.map_cons, weight_cons]
      refine ⟨by omega, ?_⟩
      rintro ⟨y, hy, hdots⟩
      rcases List.mem_cons.mp hy with rfl | hy
      · rw [hplace] at hdots
        cases hdots
      · have hfewer := hlt ⟨y, hy, hdots⟩
        omega

/-- **Decoding adds nothing,** and takes something away if there are escapes. -/
theorem weight_decode_le (xs : List (List Char)) :
    weight (xs.map percentDecode) ≤ weight (xs.map bytesOf) ∧
      ((∃ x ∈ xs, hasEscape x = true) → weight (xs.map percentDecode) < weight (xs.map bytesOf)) := by
  induction xs with
  | nil =>
    refine ⟨Nat.le_refl _, ?_⟩
    rintro ⟨x, hx, -⟩
    exact absurd hx List.not_mem_nil
  | cons x rest ih =>
    obtain ⟨hle, hlt⟩ := length_percentDecode_le x
    rw [List.map_cons, List.map_cons, weight_cons, weight_cons]
    refine ⟨by omega, ?_⟩
    rintro ⟨y, hy, hescape⟩
    rcases List.mem_cons.mp hy with rfl | hy
    · have hfewer := hlt hescape
      omega
    · have hfewer := ih.2 ⟨y, hy, hescape⟩
      omega

theorem weight_splitAtEach (cs : List Char) :
    weight ((Text.splitAtEach '/' cs).map bytesOf) = (bytesOf cs).length + 1 := by
  have hslash : (charBytes '/').length = 1 := by decide +kernel
  induction cs with
  | nil => rw [Text.splitAtEach, List.map_singleton, weight_cons, weight_nil]
  | cons c rest ih =>
    obtain ⟨part, parts, hparts⟩ := List.exists_cons_of_ne_nil (Text.splitAtEach_ne_nil '/' rest)
    rw [hparts, List.map_cons, weight_cons] at ih
    rw [Text.splitAtEach, hparts, bytesOf_cons, List.length_append]
    simp only
    split_ifs with hc
    · rw [hc, hslash, List.map_cons, List.map_cons, weight_cons, weight_cons, bytesOf_nil,
        List.length_nil]
      omega
    · rw [List.map_cons, weight_cons, bytesOf_cons, List.length_append]
      omega

/-- A backslash has one byte, as a slash has. -/
theorem weight_segmentsOf (cs : List Char) :
    weight ((segmentsOf true cs).map bytesOf) = (bytesOf cs).length + 1 := by
  have hone : (charBytes '/').length = (charBytes '\\').length := by decide +kernel
  have hsame : (bytesOf (cs.map fun c => if isSlash true c then '/' else c)).length =
      (bytesOf cs).length := by
    induction cs with
    | nil => rfl
    | cons c rest ih =>
      rw [List.map_cons, bytesOf_cons, bytesOf_cons, List.length_append, List.length_append, ih]
      split_ifs with hslash
      · simp only [isSlash, Bool.true_and, Bool.or_eq_true, beq_iff_eq] at hslash
        rcases hslash with rfl | rfl
        · rfl
        · rw [hone]
      · rfl
  rw [segmentsOf, weight_splitAtEach, hsame]

/-- A part of a text has no more bytes, and as many only if it is all of it. -/
theorem length_bytesOf_of_sublist {cs ds : List Char} (h : cs.Sublist ds) :
    (bytesOf cs).length ≤ (bytesOf ds).length ∧
      ((bytesOf ds).length ≤ (bytesOf cs).length → cs = ds) := by
  induction h with
  | slnil => exact ⟨Nat.le_refl _, fun _ => rfl⟩
  | cons c _ ih =>
    have hpos : 0 < (charBytes c).length := List.length_pos_of_ne_nil (charBytes_ne_nil c)
    rw [bytesOf_cons, List.length_append]
    refine ⟨by omega, fun hle => ?_⟩
    omega
  | cons_cons c _ ih =>
    rw [bytesOf_cons, bytesOf_cons, List.length_append, List.length_append]
    refine ⟨by omega, fun hle => ?_⟩
    rw [ih.2 (by omega)]

/-! ## When the names of a text are read -/

theorem stripEnd_sublist (p : Char → Bool) (cs : List Char) : (Text.stripEnd p cs).Sublist cs := by
  have hreverse := (List.dropWhile_sublist p (l := cs.reverse)).reverse
  rw [List.reverse_reverse] at hreverse
  exact hreverse

/-- **A text that is all path** has neither marks nor what an address ignores. -/
theorem pathIn_eq_self {cs : List Char} (h : pathIn cs = cs) :
    cs.getLast?.any Url.isEdge = false ∧
      ∀ c ∈ cs, Url.isIgnored c = false ∧ (c == '#') = false ∧ (c == '?') = false := by
  -- Each step gives a part of the text, so none of them drops anything.
  have hstrip : (Text.stripEnd Url.isEdge cs).Sublist cs := stripEnd_sublist _ cs
  have hkept : (kept cs).Sublist (Text.stripEnd Url.isEdge cs) := List.filter_sublist
  have hfragment : (cutAt (· == '#') (kept cs)).1.Sublist (kept cs) := cutAt_sublist _
  have hquery : (pathIn cs).Sublist (cutAt (· == '#') (kept cs)).1 := cutAt_sublist _
  have hle : cs.length ≤ (pathIn cs).length := by rw [h]
  have h₁ : (pathIn cs).length ≤ (cutAt (· == '#') (kept cs)).1.length := hquery.length_le
  have h₂ := hfragment.length_le
  have h₃ := hkept.length_le
  have h₄ := hstrip.length_le
  have hends : Text.stripEnd Url.isEdge cs = cs := hstrip.eq_of_length_le (by omega)
  have hall : kept cs = cs := (hkept.trans hstrip).eq_of_length_le (by omega)
  have hbefore : (cutAt (· == '#') cs).1 = cs := by
    rw [hall] at hfragment
    exact hfragment.eq_of_length_le (by rw [hall] at h₁; omega)
  have hfirst : (cutAt (· == '?') cs).1 = cs := by
    rw [pathIn, hall, hbefore] at h
    exact h
  refine ⟨stripEnd_eq_self_iff.mp hends, fun c hc => ⟨?_, ?_, ?_⟩⟩
  · rw [kept, hends] at hall
    simpa using List.filter_eq_self.mp hall c hc
  · exact of_mem_cutAt (· == '#') (hbefore.symm ▸ hc)
  · exact of_mem_cutAt (· == '?') (hfirst.symm ▸ hc)

theorem not_mem_of_segmentsOf {cs : List Char} (h : segmentsOf true cs = Text.splitAtEach '/' cs) :
    '\\' ∉ cs := by
  intro hmem
  have hmap : (cs.map fun c => if isSlash true c then '/' else c) = cs := by
    rw [segmentsOf] at h
    rw [← Text.intercalate_splitAtEach '/' (cs.map _), h, Text.intercalate_splitAtEach]
  have hslash : '\\' ∈ cs.map fun c => if isSlash true c then '/' else c := hmap.symm ▸ hmem
  obtain ⟨c, -, hc⟩ := List.mem_map.mp hslash
  split_ifs at hc with hno
  · exact absurd hc (by decide)
  · rw [hc] at hno
    exact hno rfl

/-- **The names of a text are read behind places** exactly if the text is literal. -/
theorem names_below_eq_iff (u : Url) (above : List (List Char)) (t : String) :
    (u.below above t.toList).names = above.reverse.map percentDecode ++ namesIn t ↔
      isLiteral t.toList = true := by
  rw [namesIn_eq, names_below]
  generalize t.toList = cs
  constructor
  · intro h
    -- The names weigh what the text does, and each step of reading could only have taken from that.
    have htotal := congrArg weight h
    rw [weight_append, List.map_reverse, weight_reverse, weight_splitAtEach] at htotal
    have hpath : (pathIn cs).Sublist cs :=
      (cutAt_sublist _).trans ((cutAt_sublist _).trans (List.filter_sublist.trans (stripEnd_sublist _ cs)))
    obtain ⟨hpathLe, hpathEq⟩ := length_bytesOf_of_sublist hpath
    obtain ⟨hdecodeLe, hdecodeLt⟩ := weight_decode_le (segmentsOf true (pathIn cs))
    obtain ⟨hresolveLe, hresolveLt⟩ := weight_resolve_le above (segmentsOf true (pathIn cs))
    have hsegments := weight_segmentsOf (pathIn cs)
    have hall : pathIn cs = cs := hpathEq (by omega)
    rw [hall] at h hdecodeLe hdecodeLt hresolveLe hresolveLt hsegments htotal
    have hplaces : ∀ x ∈ segmentsOf true cs, isPlace x = true := fun x hx => by
      by_contra hno
      have hlt := hresolveLt ⟨x, hx, Bool.eq_false_iff.mpr hno⟩
      omega
    have hplain : ∀ x ∈ segmentsOf true cs, hasEscape x = false := fun x hx => by
      by_contra hno
      have hlt := hdecodeLt ⟨x, hx, (Bool.not_eq_false _).mp hno⟩
      omega
    rw [resolve_of_places hplaces, List.map_append] at h
    have hparts : segmentsOf true cs = Text.splitAtEach '/' cs := by
      refine List.map_injective_iff.mpr bytesOf_injective ?_
      rw [← List.append_cancel_left h]
      exact List.map_congr_left fun x hx => (percentDecode_of_hasEscape_eq_false (hplain x hx)).symm
    obtain ⟨hend, hmarks⟩ := pathIn_eq_self hall
    have hbackslash := not_mem_of_segmentsOf hparts
    rw [hparts] at hplaces hplain
    refine (Bool.and_eq_true _ _).mpr ⟨(Bool.and_eq_true _ _).mpr ⟨List.all_eq_true.mpr fun c hc => ?_,
      List.all_eq_true.mpr fun x hx => ?_⟩, by rw [hend]; rfl⟩
    · obtain ⟨hignored, hfragment, hquery⟩ := hmarks c hc
      have hslash : (c == '\\') = false := beq_eq_false_iff_ne.mpr fun heq => hbackslash (heq ▸ hc)
      rw [isOrdinary, hignored, hfragment, hquery, hslash]
      rfl
    · rw [isName, hplaces x hx, hplain x hx]
      rfl
  · intro h
    obtain ⟨hplain, -⟩ := (Bool.and_eq_true _ _).mp h
    rw [← names_below u above cs, below_of_isLiteral h]
    refine (map_segmentText _).trans ?_
    rw [List.map_append, map_percentDecode_of_isPlain hplain]

/-! ## Behind a base -/

/-- **The text climbs:** a segment of its path stands for the place above. -/
def climbs (cs : List Char) : Bool := (segmentsOf true (pathIn cs)).any isDoubleDot

/-- **A text behind a base** and a plain text is read as an address of the same server. Its names are
read as they stand exactly if it is literal, and behind the names of what is in front of it unless it
climbs. -/
theorem IsBase.exists_read {base : String} {u : Url} (h : IsBase base u) {x : String}
    (hx : isPlain x.toList = true) (t : String) :
    ∃ v, Url.parse? (base ++ "/" ++ x ++ "/" ++ t) = some v ∧ v.scheme = u.scheme ∧
      v.authority = u.authority ∧
      (v.names = u.placeNames ++ namesIn x ++ namesIn t ↔ isLiteral t.toList = true) ∧
      (climbs t.toList = false → u.placeNames ++ namesIn x <+: v.names) := by
  obtain ⟨above, habove⟩ := h.exists_anchors
  have hplaces : u.placeNames ++ namesIn x =
      ((Text.splitAtEach '/' x.toList).reverse ++ above).reverse.map percentDecode := by
    rw [placeNames_of_anchors h habove, namesIn_eq, List.reverse_append, List.reverse_reverse,
      List.map_append, map_percentDecode_of_isPlain hx]
  refine ⟨_, habove.append hx t, rfl, rfl, ?_, fun hclimbs => ?_⟩
  · rw [hplaces]
    exact names_below_eq_iff ..
  · rw [hplaces, names_below]
    refine (prefix_resolve (fun s hs => ?_) _).map percentDecode
    exact Bool.eq_false_iff.mpr (List.any_eq_false.mp hclimbs s hs)

end GrantProbe.Http
