import GrantProbe.Domain.Name
import GrantProbe.Http.Encode

/-!
# Hosts

The host of a web address is a domain name or a number in one of two forms. A name that ends in a
number has to be a number altogether. Other addresses take a name as it is.

* `Ipv4`: numbers of 32 bits, in up to four parts; `Ipv6`: numbers in eight pieces;
* `Host`, with `Host.text`: hosts;
* `Host.ofWeb?`, `Host.ofOther?`: the host that a text stands for.
-/

namespace GrantProbe.Http

/-! ## Numbers of 32 bits -/

/-- **A number of 32 bits.** -/
structure Ipv4 where
  value : Nat
  deriving DecidableEq, Repr, Inhabited

namespace Ipv4

/-- The number of such numbers. -/
def limit : Nat := 4294967296

/-- The number that digits of a base stand for, if all are digits. -/
def digitsValue? (base : Nat) (cs : List Char) : Option Nat :=
  cs.foldlM (fun n c => ((hexValue? c).filter (· < base)).map fun d => n * base + d) 0

/-- **A part:** a number in decimal, or in octal or hexadecimal behind a zero or `0x`. -/
def part? : List Char → Option Nat
  | [] => none
  | '0' :: 'x' :: digits | '0' :: 'X' :: digits => digitsValue? 16 digits
  | ['0'] => some 0
  | '0' :: digits => digitsValue? 8 digits
  | digits => digitsValue? 10 digits

/-- The parts of a text, between dots. One dot at the end does not count. -/
def partsOf (cs : List Char) : List (List Char) :=
  let parts := Text.splitAtEach '.' cs
  if 1 < parts.length && parts.getLast? == some [] then parts.dropLast else parts

/-- The text ends in a number. -/
def isMeant (cs : List Char) : Bool :=
  match (partsOf cs).getLast? with
  | none => false
  | some last => (!last.isEmpty && last.all Char.isDigit) || (part? last).isSome

/-- The number of parts, of which all but the last are bytes. -/
def ofParts? (parts : List Nat) : Option Nat :=
  match parts.reverse with
  | [] => none
  | last :: bytes =>
    let room := bytes.foldl (fun room _ => room / 256) limit
    if bytes.length < 4 ∧ last < room ∧ bytes.all (· < 256) then
      some ((bytes.reverse.foldl (fun n b => n * 256 + b) 0) * room + last)
    else none

/-- **The number that a text stands for.** -/
def parse? (cs : List Char) : Option Ipv4 := do
  return ⟨← ofParts? (← (partsOf cs).mapM part?)⟩

/-- The number in four parts. -/
def text (a : Ipv4) : String :=
  ".".intercalate ([16777216, 65536, 256, 1].map fun unit => toString (a.value / unit % 256))

end Ipv4

/-! ## Numbers in eight pieces -/

/-- **A number in eight pieces** of 16 bits. -/
structure Ipv6 where
  pieces : List Nat
  deriving DecidableEq, Repr, Inhabited

namespace Ipv6

/-- The number of pieces. -/
def size : Nat := 8

/-- Pieces that have been read, and how many of them stand before a gap. A gap counts as a piece of its own. -/
structure Draft where
  pieces : List Nat
  gap : Option Nat

/-- A part of a number of 32 bits: at most three digits, without a zero in front. -/
def byte? (cs : List Char) : Option Nat :=
  if cs.isEmpty || (1 < cs.length && cs.head? == some '0') then none
  else (Ipv4.digitsValue? 10 cs).filter (· < 256)

/-- A number of 32 bits as two pieces. -/
def lastPieces? (cs : List Char) : Option (List Nat) :=
  match (Text.splitAtEach '.' cs).mapM byte? with
  | some [a, b, c, d] => some [a * 256 + b, c * 256 + d]
  | _ => none

/-- The hexadecimal digits at the front, at most four, and the rest. -/
def takePiece (cs : List Char) : List Char × List Char :=
  let digits := (cs.take 4).takeWhile fun c => (hexValue? c).isSome
  (digits, cs.drop digits.length)

/-- Reads pieces. -/
def readPieces? : (fuel : Nat) → Draft → List Char → Option Draft
  | _, d, [] => some d
  | 0, _, _ => none
  | fuel + 1, d, c :: cs =>
    if d.pieces.length = size then none
    else if c = ':' then
      if d.gap.isSome then none
      else readPieces? fuel ⟨d.pieces ++ [0], some (d.pieces.length + 1)⟩ cs
    else
      let (digits, rest) := takePiece (c :: cs)
      match Ipv4.digitsValue? 16 digits, rest with
      | none, _ => none
      | some n, [] => some { d with pieces := d.pieces ++ [n] }
      | some _, '.' :: _ =>
        if digits.isEmpty || size < d.pieces.length + 2 then none
        else (lastPieces? (c :: cs)).map fun last => { d with pieces := d.pieces ++ last }
      | some n, ':' :: next =>
        if next.isEmpty then none else readPieces? fuel { d with pieces := d.pieces ++ [n] } next
      | some _, _ => none

/-- The pieces of a draft, with zeros in its gap. -/
def Draft.filled? (d : Draft) : Option (List Nat) :=
  match d.gap with
  | some k => some (d.pieces.take k ++ List.replicate (size - d.pieces.length) 0 ++ d.pieces.drop k)
  | none => if d.pieces.length = size then some d.pieces else none

/-- **The number that a text stands for.** -/
def parse? (cs : List Char) : Option Ipv6 := do
  let d ←
    match cs with
    | ':' :: ':' :: rest => readPieces? cs.length ⟨[0], some 1⟩ rest
    | ':' :: _ => none
    | _ => readPieces? cs.length ⟨[], none⟩ cs
  return ⟨← d.filled?⟩

/-- The length of the run of zeros at the front. -/
def zeroRun (pieces : List Nat) : Nat := (pieces.takeWhile (· == 0)).length

/-- The place and the length of the longest run of zeros, the first of those as long. -/
def longestRun : List Nat → Nat × Nat
  | [] => (0, 0)
  | p :: rest =>
    let here := zeroRun (p :: rest)
    let (place, length) := longestRun rest
    if length ≤ here then (0, here) else (place + 1, length)

/-- Pieces between colons. -/
def colons (pieces : List Nat) : String :=
  ":".intercalate (pieces.map fun p => String.ofList (Nat.toDigits 16 p))

/-- **The number as text.** The longest run of at least two zeros is left out. -/
def text (a : Ipv6) : String :=
  let (place, length) := longestRun a.pieces
  if length < 2 then colons a.pieces
  else colons (a.pieces.take place) ++ "::" ++ colons (a.pieces.drop (place + length))

end Ipv6

/-! ## Hosts -/

/-- **A host.** -/
inductive Host where
  | name (text : String)
  | four (address : Ipv4)
  | six (address : Ipv6)
  deriving DecidableEq, Repr, Inhabited

namespace Host

/-- A host as text. -/
def text : Host → String
  | name s => s
  | four a => a.text
  | six a => "[" ++ a.text ++ "]"

/-- The host between brackets. -/
def bracketed? (cs : List Char) : Option Host :=
  if cs.getLast? = some ']' then (Ipv6.parse? (cs.drop 1).dropLast).map six else none

/-- **The host of a web address.** Its name may be percent-encoded. -/
def ofWeb? (cs : List Char) : Option Host :=
  if cs.head? = some '[' then bracketed? cs
  else do
    let name ← Domain.toAscii? (← percentDecodeText? cs).toList
    if name.isEmpty then none
    else if Ipv4.isMeant name then (Ipv4.parse? name).map four
    else some (.name (String.ofList name))

/-- The character stands in no host. -/
def isRefused (c : Char) : Bool :=
  [Char.ofNat 0, '\t', '\n', '\r', ' ', '#', '/', ':', '<', '>', '?', '@', '[', '\\', ']', '^', '|'].contains c

/-- **The host of another address,** which may be missing. -/
def ofOther? (cs : List Char) : Option (Option Host) :=
  if cs.isEmpty then some none
  else if cs.head? = some '[' then (bracketed? cs).map some
  else if cs.any isRefused then none
  else some (some (.name (encodedText (fun _ => false) cs)))

end Host

end GrantProbe.Http
