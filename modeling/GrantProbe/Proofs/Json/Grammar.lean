import GrantProbe.Proofs.Json.Reading

/-!
# The grammar of JSON

What a document is, apart from how it is read. Each relation goes from a place of the document to a
place behind it; numbers and blanks reach as far as they can.

* `Numeral`: numbers, from `Digits`, `Whole`, `Fraction` and `Exponent`;
* `Quoted`, `Spells`: texts, and the characters that they stand for, if halves of characters stand
  in pairs;
* `Derives`: values, with the `Shape` of what they hold, and the items and entries of lists and
  objects;
* `IsList`, `IsObject`: documents that are a list or an object.
-/

namespace GrantProbe.Json

variable {x y z t : Input}

/-! ## Numbers -/

/-- A place that holds a digit. -/
def isDecimal (c : Option Char) : Bool := (digit? c).isSome

/-- **Digits:** at least one, and all that follow. -/
inductive Digits : Input → Input → Prop
  | run {c : Option Char} {x : Input} (hc : isDecimal c = true) :
    Digits (c :: x) (x.dropWhile isDecimal)

/-- What stands before a point: a zero alone, or digits that do not begin with one. -/
inductive Whole : Input → Input → Prop
  | zero {x : Input} (h : ∀ c ∈ x.head?, isDecimal c = false) : Whole (some '0' :: x) x
  | digits {x t : Input} (h : x.head? ≠ some (some '0')) (hdigits : Digits x t) : Whole x t

/-- A point with digits behind it, or nothing. -/
inductive Fraction : Input → Input → Prop
  | nothing {x : Input} (h : x.head? ≠ some (some '.')) : Fraction x x
  | digits {x t : Input} (hdigits : Digits x t) : Fraction (some '.' :: x) t

/-- The document behind a sign. -/
def pastSign : Input → Input
  | some '+' :: x => x
  | some '-' :: x => x
  | x => x

/-- An exponent, or nothing. -/
inductive Exponent : Input → Input → Prop
  | nothing {x : Input} (h : ∀ c ∈ x.head?, isExponentMark c = false) : Exponent x x
  | digits {c : Option Char} {x t : Input} (hc : isExponentMark c = true)
    (hdigits : Digits (pastSign x) t) : Exponent (c :: x) t

/-- The document behind a minus. -/
def pastMinus : Input → Input
  | some '-' :: x => x
  | x => x

/-- **A number.** -/
inductive Numeral : Input → Input → Prop
  | parts {x y z t : Input} (hwhole : Whole (pastMinus x) y) (hfraction : Fraction y z)
    (hexponent : Exponent z t) : Numeral x t

/-- A place at which a number can begin. -/
def startsNumeral (c : Option Char) : Bool := c == some '-' || isDecimal c

/-! ## Texts -/

/-- A place that stands for itself in a text. -/
def isPlain (c : Option Char) : Bool :=
  c != some '"' && c != some '\\' && !c.any fun c => c.toNat < 0x20

/-- **The rest of a text,** up to its closing quote. -/
inductive Quoted : Input → Input → Prop
  | close {t : Input} : Quoted (some '"' :: t) t
  | plain {c : Option Char} {x t : Input} (hc : isPlain c = true) (hrest : Quoted x t) :
    Quoted (c :: x) t
  | named {c : Option Char} {x t : Input} (hc : (namedEscape? c).isSome = true)
    (hrest : Quoted x t) : Quoted (some '\\' :: c :: x) t
  | code {digits x t : Input} (hlength : digits.length = 4)
    (hdigits : (hexNumber? digits).isSome = true) (hrest : Quoted x t) :
    Quoted (some '\\' :: some 'u' :: (digits ++ x)) t

/-- **The characters of a text.** Two escapes that are the halves of a pair stand for one character;
half a pair stands for none. -/
inductive Spells : Input → List Char → Input → Prop
  | close {t : Input} : Spells (some '"' :: t) [] t
  | plain {c : Char} {x t : Input} {s : List Char} (hc : isPlain (some c) = true)
    (hrest : Spells x s t) : Spells (some c :: x) (c :: s) t
  | named {c : Option Char} {d : Char} {x t : Input} {s : List Char} (hc : namedEscape? c = some d)
    (hrest : Spells x s t) : Spells (some '\\' :: c :: x) (d :: s) t
  | code {digits x t : Input} {n : Nat} {s : List Char} (hlength : digits.length = 4)
    (hdigits : hexNumber? digits = some n) (hlow : isLowHalf n = false)
    (hhigh : isHighHalf n = false) (hrest : Spells x s t) :
    Spells (some '\\' :: some 'u' :: (digits ++ x)) (Char.ofNat n :: s) t
  | pair {digits more x t : Input} {high low : Nat} {s : List Char} (hlength : digits.length = 4)
    (hdigits : hexNumber? digits = some high) (hhigh : isHighHalf high = true)
    (hlength' : more.length = 4) (hmore : hexNumber? more = some low)
    (hlow : isLowHalf low = true) (hrest : Spells x s t) :
    Spells (some '\\' :: some 'u' :: (digits ++ some '\\' :: some 'u' :: (more ++ x)))
      (pairChar high low :: s) t

/-- **A text and what it says,** if it says anything. -/
structure TextIs (x : Input) (said : Option String) (t : Input) : Prop where
  quoted : Quoted x t
  said_iff (s : String) : said = some s ↔ Spells x s.toList t

theorem Spells.quoted {s : List Char} (h : Spells x s t) : Quoted x t := by
  induction h with
  | close => exact .close
  | plain hc _ ih => exact .plain hc ih
  | named hc _ ih => exact .named (by rw [hc]; rfl) ih
  | code hlength hdigits _ _ _ ih => exact .code hlength (by rw [hdigits]; rfl) ih
  | pair hlength hdigits _ hlength' hmore _ _ ih =>
    exact .code hlength (by rw [hdigits]; rfl) (.code hlength' (by rw [hmore]; rfl) ih)

theorem Quoted.length_lt (h : Quoted x t) : t.length < x.length := by
  induction h with
  | close => exact Nat.lt_succ_self _
  | plain _ _ ih => exact Nat.lt_succ_of_lt ih
  | named _ _ ih => exact Nat.lt_succ_of_lt (Nat.lt_succ_of_lt ih)
  | code _ _ _ ih =>
    simp only [List.length_cons, List.length_append]
    omega

theorem length_behindName_lt {isFirst : Bool} {k u : Input} (hnext : Next isFirst x y)
    (hquote : pastGaps y = some '"' :: k) (hname : Quoted k z)
    (hcolon : pastGaps z = some ':' :: u) : u.length < x.length := by
  have hy := hnext.length_le
  have hk := length_pastGaps_le y
  have hz := hname.length_lt
  have hu := length_pastGaps_le z
  rw [hquote, List.length_cons] at hk
  rw [hcolon, List.length_cons] at hu
  omega

/-! ## Values -/

/-- **What a value holds,** as far as it matters to a record. -/
inductive Shape where
  | null
  | text (s : String)
  | other
  deriving DecidableEq, Repr, Inhabited

/-- The shape of a text, which may say nothing. -/
def Shape.ofText : Option String → Shape
  | some s => text s
  | none => other

/-- **An entry of an object:** its name, unless that says nothing, and what its value holds. -/
structure Entry where
  name : Option String
  value : Shape
  deriving DecidableEq, Repr, Inhabited

/-- The parts of a document, with what they hold. Lists and objects go on, before their first item or
after another. -/
inductive Part where
  | value (v : Shape)
  | items (isFirst : Bool) (vs : List Shape)
  | entries (isFirst : Bool) (es : List Entry)

/-- The values that are words. -/
def valueWords : List (List Char × Shape) :=
  [(['n', 'u', 'l', 'l'], .null), (['t', 'r', 'u', 'e'], .other),
    (['f', 'a', 'l', 's', 'e'], .other)]

/-- **The grammar of values.** -/
inductive Derives : Part → Input → Input → Prop
  | word {w : List Char} {v : Shape} {t : Input} (h : (w, v) ∈ valueWords) :
    Derives (.value v) (w.map some ++ t) t
  | numeral {x t : Input} (h : Numeral x t) : Derives (.value .other) x t
  | text {x t : Input} {said : Option String} (h : TextIs x said t) :
    Derives (.value (.ofText said)) (some '"' :: x) t
  | list {x t : Input} {vs : List Shape} (h : Derives (.items true vs) x t) :
    Derives (.value .other) (some '[' :: x) t
  | object {x t : Input} {es : List Entry} (h : Derives (.entries true es) x t) :
    Derives (.value .other) (some '\x7b' :: x) t
  | itemsEnd {isFirst : Bool} {x t : Input} (h : pastGaps x = some ']' :: t) :
    Derives (.items isFirst []) x t
  | item {isFirst : Bool} {x y z t : Input} {v : Shape} {vs : List Shape} (hnext : Next isFirst x y)
    (hvalue : Derives (.value v) (pastGaps y) z) (hrest : Derives (.items false vs) z t) :
    Derives (.items isFirst (v :: vs)) x t
  | entriesEnd {isFirst : Bool} {x t : Input} (h : pastGaps x = some '\x7d' :: t) :
    Derives (.entries isFirst []) x t
  | entry {isFirst : Bool} {x y k z u w t : Input} {name : Option String} {v : Shape}
    {es : List Entry} (hnext : Next isFirst x y) (hquote : pastGaps y = some '"' :: k)
    (hname : TextIs k name z) (hcolon : pastGaps z = some ':' :: u)
    (hvalue : Derives (.value v) (pastGaps u) w) (hrest : Derives (.entries false es) w t) :
    Derives (.entries isFirst (⟨name, v⟩ :: es)) x t

/-- **The document is a list** of such values. -/
def IsList (vs : List Shape) (document : Input) : Prop :=
  ∃ x t, pastGaps document = some '[' :: x ∧ Derives (.items true vs) x t ∧ t.all isGap = true

/-- **The document is an object** with such entries. -/
def IsObject (es : List Entry) (document : Input) : Prop :=
  ∃ x t, pastGaps document = some '\x7b' :: x ∧ Derives (.entries true es) x t ∧
    t.all isGap = true

end GrantProbe.Json
