import GrantProbe.Text.Utf8

/-!
# Encoding for web addresses

* `percentEncode`: a text with the bytes of some characters as percent signs and digits;
* `percentDecode`: the bytes that such a text stands for;
* `encodedInPath` and the others: the characters that a part of an address does not hold;
* `formEncode`, `formPairs`: texts and parameters in forms.
-/

namespace GrantProbe.Http

/-! ## Percent-encoding -/

/-- A hexadecimal digit, in upper case. -/
def upperHexDigit (n : Nat) : Char := (Nat.digitChar (n % 16)).toUpper

/-- A byte as a percent sign and two digits. -/
def percentByte (b : UInt8) : List Char :=
  ['%', upperHexDigit (b.toNat / 16), upperHexDigit b.toNat]

/-- The bytes of a character. -/
def charBytes (c : Char) : Bytes := utf8Bytes (String.singleton c)

/-- **Percent-encoding** of the characters that `encodes` names, and of controls and all beyond ASCII. -/
def percentEncode (encodes : Char → Bool) (cs : List Char) : List Char :=
  cs.flatMap fun c =>
    if c.toNat < 0x20 || 0x7E < c.toNat || encodes c then (charBytes c).flatMap percentByte else [c]

/-- The encoding as a text. -/
def encodedText (encodes : Char → Bool) (cs : List Char) : String := String.ofList (percentEncode encodes cs)

/-- The value of a hexadecimal digit. -/
def hexValue? (c : Char) : Option Nat :=
  let n := c.toNat
  if 0x30 ≤ n ∧ n ≤ 0x39 then some (n - 0x30)
  else if 0x41 ≤ n ∧ n ≤ 0x46 then some (n - 0x37)
  else if 0x61 ≤ n ∧ n ≤ 0x66 then some (n - 0x57)
  else none

/-- **The bytes that a text stands for.** A percent sign without two digits stands for itself. -/
def percentDecode : List Char → Bytes
  | [] => []
  | '%' :: a :: b :: rest =>
    match hexValue? a, hexValue? b with
    | some m, some n => UInt8.ofNat (16 * m + n) :: percentDecode rest
    | _, _ => charBytes '%' ++ percentDecode (a :: b :: rest)
  | c :: rest => charBytes c ++ percentDecode rest

/-- The text of the bytes that a text stands for, if they are one. -/
def percentDecodeText? (cs : List Char) : Option String := Text.decodeUtf8? (percentDecode cs)

/-! ## Parts of addresses -/

/-- The characters that a fragment does not hold. -/
def encodedInFragment (c : Char) : Bool := [' ', '"', '<', '>', '\x60'].contains c

/-- The characters that a path does not hold. -/
def encodedInPath (c : Char) : Bool :=
  encodedInFragment c || ['#', '?', '\x7b', '\x7d'].contains c

/-- The characters that the credentials of an address do not hold. -/
def encodedInCredentials (c : Char) : Bool :=
  encodedInPath c || ['/', ':', ';', '=', '@', '[', '\\', ']', '^', '|'].contains c

/-- The characters that a query does not hold. -/
def encodedInQuery (c : Char) : Bool := [' ', '"', '#', '<', '>'].contains c

/-- The characters that the query of a web address does not hold. -/
def encodedInWebQuery (c : Char) : Bool := encodedInQuery c || c == '\''

/-! ## Forms -/

/-- The bytes that a form holds as they are. -/
def plainInForm (n : Nat) : Bool :=
  (0x30 ≤ n && n ≤ 0x39) || (0x41 ≤ n && n ≤ 0x5A) || (0x61 ≤ n && n ≤ 0x7A) ||
    n == 0x2A || n == 0x2D || n == 0x2E || n == 0x5F

/-- A byte in a form. -/
def formByte (b : UInt8) : List Char :=
  if b.toNat = 0x20 then ['+']
  else if plainInForm b.toNat then [Char.ofNat b.toNat]
  else percentByte b

/-- **A text in a form.** -/
def formEncode (s : String) : List Char := (utf8Bytes s).flatMap formByte

/-- Parameters as a form. -/
def formPairs : List (String × String) → List Char
  | [] => []
  | [(k, v)] => formEncode k ++ '=' :: formEncode v
  | (k, v) :: rest => formEncode k ++ '=' :: formEncode v ++ '&' :: formPairs rest

end GrantProbe.Http
