import GrantProbe.Json.Number
import GrantProbe.Json.Text

/-!
# Passing over values

The value of a field that nothing asks for. It has to be well-formed, but its numbers may be of any size and
its texts may hold anything.

* `Reader.passNumber`: a number;
* `Reader.passValue`: any value.
-/

namespace GrantProbe.Json.Reader

/-- At least one digit. -/
def someDigits : Reader Unit := do
  if (← passDigits) = 0 then fail .invalidNumber else pure ()

/-- An exponent, if one stands here. -/
def passExponent : Reader Unit := do
  match ← peek with
  | some c =>
    if isExponentMark c then
      advance
      let _ ← exponentSign
      someDigits
    else pure ()
  | none => pure ()

/-- The digits before the point. -/
def passWhole : Reader Unit := do
  if (← peek) = some (some '0') then
    advance
    if ← atDigit then fail .invalidNumber else pure ()
  else someDigits

/-- **A number.** -/
def passNumber : Reader Unit := do
  if (← peek) = some (some '-') then advance else pure ()
  passWhole
  if (← peek) = some (some '.') then
    advance
    someDigits
  else pure ()
  passExponent

/-- Whether a list goes on, before its first item or after another. -/
def passMoreItems (isFirst : Bool) : Reader Bool := do
  match ← peekPast with
  | none => fail (.unfinished .list)
  | some (some ']') => advance *> pure false
  | some c =>
    if isFirst then pure true
    else if c = some ',' then advance *> pure true
    else fail .expectedListEnd

/-- Whether an object goes on, before its first key or after another value. -/
def passMoreKeys (isFirst : Bool) : Reader Bool := do
  match ← peekPast with
  | none => fail (.unfinished .object)
  | some (some '\x7d') => advance *> pure false
  | some c =>
    if isFirst then pure true
    else if c = some ',' then advance *> pure true
    else fail .expectedObjectEnd

/-- A key and the colon after it. -/
def passKey : Reader Unit := do
  match ← peekPast with
  | none => fail (.unfinished .object)
  | some (some '"') =>
    passText
    colon
  | some _ => fail .keyNotString

mutual

/-- **A value.** -/
def passValueWith : (fuel : Nat) → Reader Unit
  | 0 => fail (.unfinished .value)
  | fuel + 1 => do
    match ← peekPast with
    | none => fail (.unfinished .value)
    | some (some '"') => passText
    | some (some '[') =>
      advance
      passItems fuel true
    | some (some '\x7b') =>
      advance
      passEntries fuel true
    | some (some 'n') =>
      advance
      word ['u', 'l', 'l']
    | some (some 't') =>
      advance
      word ['r', 'u', 'e']
    | some (some 'f') =>
      advance
      word ['a', 'l', 's', 'e']
    | some c => if c = some '-' ∨ (digit? c).isSome then passNumber else fail .expectedValue

/-- The rest of a list. -/
def passItems : (fuel : Nat) → Bool → Reader Unit
  | 0, _ => fail (.unfinished .list)
  | fuel + 1, isFirst => do
    if ← passMoreItems isFirst then
      passValueWith fuel
      passItems fuel false
    else pure ()

/-- The rest of an object. -/
def passEntries : (fuel : Nat) → Bool → Reader Unit
  | 0, _ => fail (.unfinished .object)
  | fuel + 1, isFirst => do
    if ← passMoreKeys isFirst then
      passKey
      passValueWith fuel
      passEntries fuel false
    else pure ()

end

/-- **Any value, passed over.** -/
def passValue : Reader Unit := do passValueWith (2 * (← remaining) + 2)

end GrantProbe.Json.Reader
