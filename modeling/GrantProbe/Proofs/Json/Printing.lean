import GrantProbe.Json.Printer
import GrantProbe.Proofs.Decimal.Digits
import GrantProbe.Proofs.Json.Values

/-!
# What is printed is JSON

The grammar has every printed value, whatever its texts and numbers are, and a text says what it was
printed for.

* `spells_escape`: texts, character by character;
* `IsUnsigned`, `numeral_stored`: floats, from the parts of a number;
* `held`: what a value holds; `prints_compactChars`: values, with their items and entries;
* `isObject_compact`: an object on one line is an object with the entries it was printed for.
-/

namespace GrantProbe.Json

variable {t : Input}

/-! ## Texts -/

/-- How a character is printed: by a letter, by its code, or as it stands. -/
theorem escapeChar_cases (c : Char) :
    (∃ d, namedEscape? (some d) = some c ∧ escapeChar c = ['\\', d]) ∨
      (c.toNat < 0x20 ∧
        escapeChar c = ['\\', 'u', '0', '0', hexDigit (c.toNat / 16), hexDigit c.toNat]) ∨
      (isPlain (some c) = true ∧ escapeChar c = [c]) := by
  unfold escapeChar
  split
  · exact Or.inl ⟨_, rfl, rfl⟩
  · exact Or.inl ⟨_, rfl, rfl⟩
  · exact Or.inl ⟨_, rfl, rfl⟩
  · exact Or.inl ⟨_, rfl, rfl⟩
  · exact Or.inl ⟨_, rfl, rfl⟩
  · exact Or.inl ⟨_, rfl, rfl⟩
  · exact Or.inl ⟨_, rfl, rfl⟩
  · next hquote hslash _ _ _ _ _ =>
    split
    · next hcontrol => exact Or.inr (Or.inl ⟨hcontrol, rfl⟩)
    · next hcontrol =>
      refine Or.inr (Or.inr ⟨?_, rfl⟩)
      have hq : c ≠ '"' := hquote
      have hs : c ≠ '\\' := hslash
      simp [isPlain, hq, hs, hcontrol]

theorem hexNumber?_control : ∀ n < 0x20,
    hexNumber? [some '0', some '0', some (hexDigit (n / 16)), some (hexDigit n)] = some n := by
  decide +kernel

/-- **A printed text says what it was printed for.** -/
theorem spells_escape (s : List Char) (t : Input) :
    Spells ((s.flatMap escapeChar).map some ++ some '"' :: t) s t := by
  induction s with
  | nil => exact .close
  | cons c rest ih =>
    rw [List.flatMap_cons, List.map_append, List.append_assoc]
    rcases escapeChar_cases c with ⟨d, hd, hc⟩ | ⟨hcontrol, hc⟩ | ⟨hplain, hc⟩
    · rw [hc]
      exact .named hd ih
    · have hcode := Spells.code rfl (hexNumber?_control c.toNat hcontrol)
        (by simp [isLowHalf]; omega) (by simp [isHighHalf]; omega) ih
      rw [Char.ofNat_toNat] at hcode
      rw [hc]
      exact hcode
    · rw [hc]
      exact .plain hplain ih

theorem textIs_escape (s : String) (t : Input) :
    TextIs ((s.toList.flatMap escapeChar).map some ++ some '"' :: t) (some s) t := by
  have hsaid := (spells_escape s.toList t).textIs
  rwa [String.ofList_toList] at hsaid

/-! ## Numbers -/

/-- **Where a number ends:** nothing follows that would belong to it. -/
def EndsNumber (t : Input) : Prop :=
  ∀ c ∈ t.head?, isDecimal c = false ∧ c ≠ some '.' ∧ isExponentMark c = false

theorem isDecimal_some (c : Char) : isDecimal (some c) = c.isDigit := by
  have hdigit : ('0' ≤ c ∧ c ≤ '9') ↔ c.isDigit = true := by
    rw [Char.isDigit, Bool.and_eq_true, decide_eq_true_eq, decide_eq_true_eq]
    exact Iff.rfl
  simp only [isDecimal, digit?]
  by_cases hc : '0' ≤ c ∧ c ≤ '9'
  · rw [if_pos hc, hdigit.mp hc]
    rfl
  · rw [if_neg hc, Bool.eq_false_iff.mpr fun h => hc (hdigit.mpr h)]
    rfl

/-- Digits, and at least one. -/
structure IsDigits (cs : List Char) : Prop where
  ne_nil : cs ≠ []
  digits : ∀ c ∈ cs, c.isDigit = true

theorem IsDigits.append {cs ds : List Char} (hcs : IsDigits cs) (hds : ∀ c ∈ ds, c.isDigit = true) :
    IsDigits (cs ++ ds) := by
  refine ⟨List.append_ne_nil_of_left_ne_nil hcs.ne_nil ds, fun c hc => ?_⟩
  rcases List.mem_append.mp hc with h | h
  · exact hcs.digits c h
  · exact hds c h

theorem isDigits_zero : IsDigits ['0'] := ⟨List.cons_ne_nil _ _, by simp⟩

/-- What can stand before a point: a zero, or digits that do not begin with one. -/
def IsWhole (cs : List Char) : Prop := cs = ['0'] ∨ (IsDigits cs ∧ cs.head? ≠ some '0')

/-- What can follow: nothing, or a point and digits. -/
def IsFraction (cs : List Char) : Prop := cs = [] ∨ ∃ ds, cs = '.' :: ds ∧ IsDigits ds

/-- What can follow that: nothing, or an exponent, which is printed with its sign. -/
def IsExponent (cs : List Char) : Prop :=
  cs = [] ∨ ∃ sign ds, cs = 'e' :: sign :: ds ∧ (sign = '+' ∨ sign = '-') ∧ IsDigits ds

/-- **A number without its sign,** by its characters. -/
inductive IsUnsigned : List Char → Prop
  | parts {whole fraction exponent : List Char} (hwhole : IsWhole whole)
    (hfraction : IsFraction fraction) (hexponent : IsExponent exponent) :
    IsUnsigned (whole ++ (fraction ++ exponent))

theorem IsDigits.derives {cs : List Char} (hcs : IsDigits cs)
    (ht : ∀ c ∈ t.head?, isDecimal c = false) : Digits (cs.map some ++ t) t := by
  obtain ⟨c, rest, rfl⟩ := List.exists_cons_of_ne_nil hcs.ne_nil
  have hdecimal : ∀ d ∈ rest.map some, isDecimal d = true := by
    intro d hd
    obtain ⟨e, he, rfl⟩ := List.mem_map.mp hd
    rw [isDecimal_some]
    exact hcs.digits e (List.mem_cons_of_mem c he)
  have hend : t.dropWhile isDecimal = t := by
    cases t with
    | nil => rfl
    | cons d t => exact List.dropWhile_cons_of_neg (by simp [ht d rfl])
  have hrun : Digits (some c :: (rest.map some ++ t)) ((rest.map some ++ t).dropWhile isDecimal) :=
    .run (by rw [isDecimal_some]; exact hcs.digits c List.mem_cons_self)
  rwa [List.dropWhile_append_of_pos hdecimal, hend] at hrun

theorem IsWhole.derives {cs : List Char} (hcs : IsWhole cs)
    (ht : ∀ c ∈ t.head?, isDecimal c = false) : Whole (cs.map some ++ t) t := by
  rcases hcs with rfl | ⟨hdigits, hzero⟩
  · exact .zero ht
  · refine .digits ?_ (hdigits.derives ht)
    obtain ⟨c, rest, rfl⟩ := List.exists_cons_of_ne_nil hdigits.ne_nil
    simpa using hzero

/-- A fraction is read up to what is neither a point nor a digit. -/
theorem IsFraction.derives {cs : List Char} (hcs : IsFraction cs)
    (ht : ∀ c ∈ t.head?, isDecimal c = false ∧ c ≠ some '.') : Fraction (cs.map some ++ t) t := by
  rcases hcs with rfl | ⟨ds, rfl, hds⟩
  · exact .nothing fun hpoint => (ht _ hpoint).2 rfl
  · exact .digits (hds.derives fun c hc => (ht c hc).1)

theorem IsFraction.head {cs : List Char} (hcs : IsFraction cs)
    (ht : ∀ c ∈ t.head?, isDecimal c = false) : ∀ c ∈ (cs.map some ++ t).head?, isDecimal c = false := by
  rcases hcs with rfl | ⟨ds, rfl, -⟩
  · exact ht
  · intro c hc
    rw [← Option.some.inj hc]
    rfl

theorem IsExponent.derives {cs : List Char} (hcs : IsExponent cs) (ht : EndsNumber t) :
    Exponent (cs.map some ++ t) t := by
  rcases hcs with rfl | ⟨sign, ds, rfl, hsign, hds⟩
  · exact .nothing fun c hc => (ht c hc).2.2
  · have hdigits : Digits (ds.map some ++ t) t := hds.derives fun c hc => (ht c hc).1
    refine .digits rfl ?_
    rcases hsign with rfl | rfl <;> exact hdigits

theorem IsExponent.head {cs : List Char} (hcs : IsExponent cs) (ht : EndsNumber t) :
    ∀ c ∈ (cs.map some ++ t).head?, isDecimal c = false ∧ c ≠ some '.' := by
  rcases hcs with rfl | ⟨sign, ds, rfl, -, -⟩
  · exact fun c hc => ⟨(ht c hc).1, (ht c hc).2.1⟩
  · intro c hc
    rw [← Option.some.inj hc]
    exact ⟨rfl, by decide⟩

theorem pastMinus_of_whole {x y : Input} (h : Whole x y) : pastMinus x = x := by
  refine pastMinus_eq_self fun hminus => ?_
  obtain ⟨z, rfl⟩ := List.head?_eq_some_iff.mp hminus
  cases h with
  | digits _ hdigits =>
    cases hdigits with
    | run hc => exact absurd hc (by decide)

/-- **A number with its sign** is in the grammar. -/
theorem IsUnsigned.numeral {cs : List Char} (hcs : IsUnsigned cs) (negative : Bool)
    (ht : EndsNumber t) :
    Numeral (((if negative then ['-'] else []) ++ cs).map some ++ t) t := by
  obtain ⟨hwhole, hfraction, hexponent⟩ := hcs
  rename_i whole fraction exponent
  have hpoint := hexponent.head ht
  have hall := hwhole.derives (hfraction.head fun c hc => (hpoint c hc).1)
  have hx : ((whole ++ (fraction ++ exponent)).map some ++ t : Input) =
      whole.map some ++ (fraction.map some ++ (exponent.map some ++ t)) := by
    simp only [List.map_append, List.append_assoc]
  rw [← hx] at hall
  cases negative with
  | true => exact .parts hall (hfraction.derives hpoint) (hexponent.derives ht)
  | false =>
    refine .parts ?_ (hfraction.derives hpoint) (hexponent.derives ht)
    rwa [if_neg Bool.false_ne_true, List.nil_append, pastMinus_of_whole hall]

/-! ### Whole numbers and floats -/

open Decimal (Layout digitChars inDocuments)

theorem isDigits_digitChars (n : Nat) : IsDigits (digitChars n) :=
  ⟨Decimal.digitChars_ne_nil n, fun _ => Decimal.isDigit_of_mem_digitChars⟩

theorem isWhole_digitChars (n : Nat) : IsWhole (digitChars n) := by
  rcases Nat.eq_zero_or_pos n with rfl | hn
  · exact Or.inl rfl
  · exact Or.inr ⟨isDigits_digitChars n, Decimal.head_digitChars_ne_zero hn⟩

theorem isUnsigned_of_isWhole {cs : List Char} (h : IsWhole cs) : IsUnsigned cs := by
  have hparts := IsUnsigned.parts h (Or.inl rfl) (Or.inl rfl)
  rwa [List.append_nil, List.append_nil] at hparts

theorem numeral_integerChars (n : Int) (ht : EndsNumber t) :
    Numeral ((integerChars n).map some ++ t) t := by
  have hnumeral := (isUnsigned_of_isWhole (isWhole_digitChars n.natAbs)).numeral (n < 0) ht
  unfold integerChars
  split
  · next hn => simpa [hn] using hnumeral
  · next hn => simpa [hn] using hnumeral

theorem isDigit_of_mem_replicate {n : Nat} {c : Char} (h : c ∈ List.replicate n '0') :
    c.isDigit = true := by
  rw [List.eq_of_mem_replicate h]
  rfl

theorem isUnsigned_of_point {cs ds : List Char} (hcs : IsWhole cs) (hds : IsDigits ds) :
    IsUnsigned (cs ++ '.' :: ds) := by
  have hparts := IsUnsigned.parts hcs (Or.inr ⟨ds, rfl, hds⟩) (Or.inl rfl)
  rwa [List.append_nil] at hparts

/-- **Digits with a point** in front of them, behind them or in between. -/
theorem isUnsigned_position {ds : List Char} (hds : IsDigits ds) (hzero : ds.head? ≠ some '0')
    (point : Int) : IsUnsigned (inDocuments.position ds point) := by
  unfold Layout.position
  split
  · -- a zero, the point, and zeros up to the digits
    have hfraction : IsDigits (List.replicate (-point).toNat '0' ++ ds) := by
      refine ⟨List.append_ne_nil_of_right_ne_nil _ hds.ne_nil, fun c hc => ?_⟩
      rcases List.mem_append.mp hc with h | h
      · exact isDigit_of_mem_replicate h
      · exact hds.digits c h
    rw [List.append_assoc]
    exact isUnsigned_of_point (Or.inl rfl) hfraction
  · next hpositive =>
    simp only
    split
    · have hwhole : IsDigits (ds ++ List.replicate (point.toNat - ds.length) '0') :=
        hds.append fun c hc => isDigit_of_mem_replicate hc
      refine isUnsigned_of_point (Or.inr ⟨hwhole, ?_⟩) isDigits_zero
      obtain ⟨c, rest, rfl⟩ := List.exists_cons_of_ne_nil hds.ne_nil
      exact hzero
    · next hlength =>
      have hwhole : IsDigits (ds.take point.toNat) := by
        refine ⟨?_, fun c hc => hds.digits c (List.mem_of_mem_take hc)⟩
        rw [Ne, List.take_eq_nil_iff, not_or]
        exact ⟨by omega, hds.ne_nil⟩
      have hfraction : IsDigits (ds.drop point.toNat) := by
        refine ⟨?_, fun c hc => hds.digits c (List.mem_of_mem_drop hc)⟩
        rwa [Ne, List.drop_eq_nil_iff]
      have hhead : (ds.take point.toNat).head? ≠ some '0' := by
        rwa [List.head?_take, if_neg (by omega)]
      have hpoint := isUnsigned_of_point (Or.inr ⟨hwhole, hhead⟩) hfraction
      rwa [List.append_assoc]

/-- **Digits with an exponent.** -/
theorem isUnsigned_scientific {ds : List Char} (hds : IsDigits ds) (hzero : ds.head? ≠ some '0')
    (exponent : Int) : IsUnsigned (inDocuments.scientific ds exponent) := by
  obtain ⟨c, rest, rfl⟩ := List.exists_cons_of_ne_nil hds.ne_nil
  have hwhole : IsWhole [c] :=
    Or.inr ⟨⟨by simp, fun d hd => hds.digits d (by simp_all)⟩, by simpa using hzero⟩
  have hexponent : IsExponent ('e' :: (if exponent < 0 then '-' else '+') ::
      digitChars exponent.natAbs) := by
    refine Or.inr ⟨_, _, rfl, ?_, isDigits_digitChars _⟩
    split
    · exact Or.inr rfl
    · exact Or.inl rfl
  have hsign : (if exponent < 0 then ['-'] else if inDocuments.exponentPlus then ['+'] else []) =
      [if exponent < 0 then '-' else '+'] := by
    split <;> rfl
  unfold Layout.scientific
  rw [hsign]
  cases rest with
  | nil => simpa using IsUnsigned.parts hwhole (Or.inl rfl) hexponent
  | cons d rest =>
    have hrest : IsDigits (d :: rest) :=
      ⟨by simp, fun e he => hds.digits e (List.mem_cons_of_mem c he)⟩
    simpa using IsUnsigned.parts hwhole (Or.inr ⟨_, rfl, hrest⟩) hexponent

theorem isUnsigned_magnitude (d : Decimal.Dyadic) : IsUnsigned (inDocuments.magnitude d) := by
  unfold Layout.magnitude
  split
  · have hzero : IsUnsigned (['0'] ++ '.' :: ['0']) := isUnsigned_of_point (Or.inl rfl) isDigits_zero
    exact hzero
  · next hmantissa =>
    have hdigits := isDigits_digitChars d.shortest.1
    have hzero := Decimal.head_digitChars_ne_zero (Decimal.Dyadic.shortest_pos hmantissa)
    simp only
    split
    · exact isUnsigned_position hdigits hzero _
    · exact isUnsigned_scientific hdigits hzero _

/-- **A finite float is printed as a number.** -/
theorem numeral_stored {x : Float} {d : Decimal.Dyadic} (hx : Decimal.decode x = .finite d)
    (ht : EndsNumber t) : Numeral ((Decimal.stored x).toList.map some ++ t) t := by
  have hnumeral := (isUnsigned_magnitude d).numeral d.negative ht
  have htext : (Decimal.stored x).toList =
      (if d.negative then ['-'] else []) ++ inDocuments.magnitude d := by
    simp only [Decimal.stored, Layout.text, hx, String.toList_append, String.toList_ofList]
    cases d.negative <;> rfl
  rwa [htext]

/-! ## Values -/

/-- **What a value holds,** as far as it matters to a record. A float that is not finite is printed as
null. -/
def held : Json → Shape
  | null => .null
  | float x =>
    match Decimal.decode x with
    | .finite _ => .other
    | _ => .null
  | text s => .text s
  | _ => .other

/-- The entry that a member of an object is printed as. -/
def Entry.of (member : String × Json) : Entry := ⟨some member.1, member.2.held⟩

/-- **The characters of a value.** -/
def Prints (cs : List Char) (v : Shape) : Prop :=
  ∀ t, EndsNumber t → Derives (.value v) (cs.map some ++ t) t

/-- **The characters of an entry:** a name, a colon and a value. -/
inductive PrintsEntry : List Char → Entry → Prop
  | parts {key : String} {cs : List Char} {v : Shape} (hvalue : Prints cs v) :
    PrintsEntry (escape key ++ ':' :: cs) ⟨some key, v⟩

theorem endsNumber_cons {c : Char} (h : c ∈ [',', ']', '\x7d']) (x : Input) :
    EndsNumber (some c :: x) := by
  intro d hd
  rw [← Option.some.inj hd]
  simp only [List.mem_cons, List.not_mem_nil, or_false] at h
  rcases h with rfl | rfl | rfl <;> exact ⟨rfl, by decide, rfl⟩

theorem joinChars_cons (separator part : List Char) (parts : List (List Char)) :
    joinChars separator (part :: parts) = part ++ parts.flatMap (separator ++ ·) := by
  induction parts generalizing part with
  | nil => simp [joinChars]
  | cons next rest ih =>
    rw [joinChars, ih, List.flatMap_cons, List.append_assoc, List.append_assoc]
    simp

theorem pastGaps_of_prints {cs : List Char} {v : Shape} (h : Derives (.value v) (cs.map some ++ t) t) :
    pastGaps (cs.map some ++ t) = cs.map some ++ t := by
  obtain ⟨c, y, hx, hgap, -⟩ := h.value_exists_cons
  rw [hx, pastGaps_cons hgap]

/-- What follows the first of several parts: the other parts, each behind a comma, and the end. -/
def behindComma (parts : List (List Char)) (closing : Char) (t : Input) : Input :=
  (parts.flatMap ([','] ++ ·)).map some ++ some closing :: t

theorem endsNumber_behindComma {closing : Char} (h : closing ∈ [']', '\x7d'])
    (parts : List (List Char)) (t : Input) : EndsNumber (behindComma parts closing t) := by
  cases parts with
  | nil => exact endsNumber_cons (List.mem_cons_of_mem _ h) t
  | cons part rest => exact endsNumber_cons List.mem_cons_self _

theorem behindComma_cons (part : List Char) (parts : List (List Char)) (closing : Char) (t : Input) :
    behindComma (part :: parts) closing t =
      some ',' :: (part.map some ++ behindComma parts closing t) := by
  simp [behindComma]

/-! ### Lists -/

theorem derives_item {isFirst : Bool} {cs : List Char} {v : Shape} {parts : List (List Char)}
    {vs : List Shape} {x : Input} (hcs : Prints cs v)
    (hnext : Next isFirst x (cs.map some ++ behindComma parts ']' t))
    (hrest : Derives (.items false vs) (behindComma parts ']' t) t) :
    Derives (.items isFirst (v :: vs)) x t := by
  have hvalue := hcs _ (endsNumber_behindComma List.mem_cons_self parts t)
  exact .item hnext (by rwa [pastGaps_of_prints hvalue]) hrest

theorem derives_behindComma_items {parts : List (List Char)} {vs : List Shape}
    (h : List.Forall₂ Prints parts vs) : Derives (.items false vs) (behindComma parts ']' t) t := by
  induction h with
  | nil => exact .itemsEnd (pastGaps_cons rfl t)
  | cons hcs _ ih =>
    refine derives_item hcs ?_ ih
    rw [behindComma_cons]
    exact pastGaps_cons rfl _

/-- **A printed list.** -/
theorem derives_list {parts : List (List Char)} {vs : List Shape} (h : List.Forall₂ Prints parts vs) :
    Derives (.items true vs) ((joinChars [','] parts).map some ++ some ']' :: t) t := by
  cases h with
  | nil => exact .itemsEnd (pastGaps_cons rfl t)
  | cons hcs hrest =>
    refine derives_item hcs ?_ (derives_behindComma_items hrest)
    rw [joinChars_cons, List.map_append, List.append_assoc]
    rfl

/-! ### Objects -/

theorem derives_entry {isFirst : Bool} {cs : List Char} {e : Entry} {parts : List (List Char)}
    {es : List Entry} {x : Input} (hcs : PrintsEntry cs e)
    (hnext : Next isFirst x (cs.map some ++ behindComma parts '\x7d' t))
    (hrest : Derives (.entries false es) (behindComma parts '\x7d' t) t) :
    Derives (.entries isFirst (e :: es)) x t := by
  obtain ⟨hvalue⟩ := hcs
  rename_i key cs v
  have hclosing : '\x7d' ∈ [']', '\x7d'] := by decide
  have hderives := hvalue _ (endsNumber_behindComma hclosing parts t)
  have hname := textIs_escape key (some ':' :: (cs.map some ++ behindComma parts '\x7d' t))
  refine .entry hnext ?_ hname (pastGaps_cons rfl _) ?_ hrest
  · simp only [escape, List.map_append, List.map_cons, List.cons_append, List.append_assoc,
      List.nil_append]
    exact pastGaps_cons rfl _
  · rwa [pastGaps_of_prints hderives]

theorem derives_behindComma_entries {parts : List (List Char)} {es : List Entry}
    (h : List.Forall₂ PrintsEntry parts es) :
    Derives (.entries false es) (behindComma parts '\x7d' t) t := by
  induction h with
  | nil => exact .entriesEnd (pastGaps_cons rfl t)
  | cons hcs _ ih =>
    refine derives_entry hcs ?_ ih
    rw [behindComma_cons]
    exact pastGaps_cons rfl _

/-- **A printed object.** -/
theorem derives_object {parts : List (List Char)} {es : List Entry}
    (h : List.Forall₂ PrintsEntry parts es) :
    Derives (.entries true es) ((joinChars [','] parts).map some ++ some '\x7d' :: t) t := by
  cases h with
  | nil => exact .entriesEnd (pastGaps_cons rfl t)
  | cons hcs hrest =>
    refine derives_entry hcs ?_ (derives_behindComma_entries hrest)
    rw [joinChars_cons, List.map_append, List.append_assoc]
    rfl

/-! ### Any value -/

theorem prints_of_numeral {cs : List Char} (h : ∀ t, EndsNumber t → Numeral (cs.map some ++ t) t) :
    Prints cs .other := fun t ht => .numeral (h t ht)

theorem prints_word {w : List Char} {v : Shape} (h : (w, v) ∈ valueWords) : Prints w v :=
  fun _ _ => .word h

theorem prints_null : Prints ['n', 'u', 'l', 'l'] .null := prints_word (by simp [valueWords])

/-- A float is printed as a number, or as null. -/
theorem prints_float (x : Float) : Prints (compactChars (float x)) (held (float x)) := by
  rw [compactChars, held]
  cases hx : Decimal.decode x with
  | finite d => exact prints_of_numeral fun _ => numeral_stored hx
  | infinite negative => simpa [Decimal.stored, hx] using prints_null
  | nan => simpa [Decimal.stored, hx] using prints_null

mutual

/-- **What is printed of a value** is a value of the grammar. By recursion on the value, with its items
and its entries. -/
theorem prints_compactChars : ∀ v : Json, Prints (compactChars v) v.held
  | .null => prints_null
  | .boolean true => prints_word (w := ['t', 'r', 'u', 'e']) (v := .other) (by simp [valueWords])
  | .boolean false =>
    prints_word (w := ['f', 'a', 'l', 's', 'e']) (v := .other) (by simp [valueWords])
  | .integer n => prints_of_numeral fun _ => numeral_integerChars n
  | .float x => prints_float x
  | .text s => by
    intro t _
    have htext := Derives.text (textIs_escape s t)
    simpa [compactChars, escape, held, Shape.ofText] using htext
  | .list items => by
    intro t _
    have hlist := Derives.list (derives_list (t := t) (prints_compactItems items))
    simpa [compactChars, held] using hlist
  | .object entries => by
    intro t _
    have hobject := Derives.object (derives_object (t := t) (prints_compactEntries entries))
    simpa [compactChars, held] using hobject

theorem prints_compactItems : ∀ items : List Json,
    List.Forall₂ Prints (compactItems items) (items.map held)
  | [] => .nil
  | v :: rest => .cons (prints_compactChars v) (prints_compactItems rest)

theorem prints_compactEntries : ∀ entries : List (String × Json),
    List.Forall₂ PrintsEntry (compactEntries entries) (entries.map Entry.of)
  | [] => .nil
  | (_, v) :: rest => .cons (.parts (prints_compactChars v)) (prints_compactEntries rest)

end

/-- **An object on one line** is an object with the entries that it was printed for. -/
theorem isObject_compact (members : List (String × Json)) :
    IsObject (members.map Entry.of) (Input.ofText (object members).compact) := by
  refine ⟨_, [], ?_, derives_object (prints_compactEntries members), rfl⟩
  simp only [Input.ofText, compact, compactChars, String.toList_ofList, List.map_append,
    List.map_cons, List.cons_append, List.map_nil]
  exact pastGaps_cons rfl _

end GrantProbe.Json
