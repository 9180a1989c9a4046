import GrantProbe.Access.Verification
import GrantProbe.Config

/-!
# Values of options

* `ValueFault`, `ValueReader`: readers of the text that an option is given;
* `wholeNumber`, `integer`: numbers below `2 ^ 64`, and those that a signed word holds;
* the readers of each type of value.
-/

namespace GrantProbe

/-- **Why a value is refused.** -/
inductive ValueFault where
  /-- It is not among the values that can be given. -/
  | unacceptable
  | unreadable (reason : String)
  deriving DecidableEq, Repr, Inhabited

/-- **A reader** of values. -/
abbrev ValueReader (α : Type) : Type := String → Except ValueFault α

/-! ## Numbers -/

/-- **Why a text is no number.** -/
inductive NumberFault where
  | empty | notDigit | tooLarge | tooSmall
  deriving DecidableEq, Repr, Inhabited

def NumberFault.message : NumberFault → String
  | empty => "cannot parse integer from empty string"
  | notDigit => "invalid digit found in string"
  | tooLarge => "number too large to fit in target type"
  | tooSmall => "number too small to fit in target type"

/-- The value of digits that follow a number. What is wrong first is reported: a character that is no digit, or
the digit with which the number exceeds its bound. -/
def digitsUpTo (bound : Nat) (excess : NumberFault) (start : Nat) : List Char → Except NumberFault Nat
  | [] => .ok start
  | c :: rest =>
    if c.isDigit then
      let n := start * 10 + (c.toNat - '0'.toNat)
      if bound < n then .error excess else digitsUpTo bound excess n rest
    else .error .notDigit

/-- **A whole number below `2 ^ 64`,** with or without a plus sign. -/
def wholeNumber (s : String) : Except NumberFault Nat :=
  match s.toList with
  | [] => .error .empty
  | ['+'] => .error .notDigit
  | '+' :: digits | digits => digitsUpTo (Decimal.twoTo 64 - 1) .tooLarge 0 digits

/-- **An integer of 64 bits,** with or without a sign. -/
def integer (s : String) : Except NumberFault Int :=
  match s.toList with
  | [] => .error .empty
  | ['+'] | ['-'] => .error .notDigit
  | '-' :: digits => (fun n => -Int.ofNat n) <$> digitsUpTo (Decimal.twoTo 63) .tooSmall 0 digits
  | '+' :: digits | digits => Int.ofNat <$> digitsUpTo (Decimal.twoTo 63 - 1) .tooLarge 0 digits

/-! ## Readers -/

namespace ValueReader

variable {α : Type}

/-- Any text. -/
def text : ValueReader String := .ok

/-- The path of a file, which is not empty. -/
def path : ValueReader String := fun s => if s.isEmpty then .error .unacceptable else .ok s

/-- One of some words. -/
def word (read : String → Option α) : ValueReader α := fun s =>
  match read s with
  | some a => .ok a
  | none => .error .unacceptable

/-- A value whose reader gives a reason when it fails. -/
def orReason (read : String → Except String α) : ValueReader α := fun s =>
  match read s with
  | .ok a => .ok a
  | .error reason => .error (.unreadable reason)

/-- A value whose reader fails with an error. -/
def orError (read : String → Except Error α) : ValueReader α := fun s =>
  match read s with
  | .ok a => .ok a
  | .error e => .error (.unreadable e.message)

/-- A truth value. -/
def truth : ValueReader Bool
  | "true" => .ok true
  | "false" => .ok false
  | _ => .error .unacceptable

/-- The greatest number of 32 bits. -/
def maxSmall : Nat := Decimal.twoTo 32 - 1

/-- A number of 32 bits. -/
def small : ValueReader Nat := fun s =>
  match integer s with
  | .error f => .error (.unreadable f.message)
  | .ok n =>
    if 0 ≤ n ∧ n ≤ maxSmall then .ok n.toNat
    else .error (.unreadable (toString n ++ " is not in 0..=" ++ toString maxSmall))

/-- A number of milliseconds. -/
def millis : ValueReader Duration := fun s =>
  match wholeNumber s with
  | .error f => .error (.unreadable f.message)
  | .ok n => .ok (.ofMillis n)

end ValueReader

end GrantProbe
