import GrantProbe.Decimal.Binary
import GrantProbe.Error

/-!
# Durations

A duration is a whole number of nanoseconds, of which a clock can hold fewer than `2 ^ 64` seconds.
Multiplying one goes through binary seconds and rounds to the nearest nanosecond; a result that is
negative, too long or no number is an abnormal end.

* `Duration`, with `ofMillis`, `ofSeconds` and `wholeMillis`;
* `Duration.ofFloat`: seconds as a float, rounded; `Duration.scale`: a multiple.
-/

namespace GrantProbe

/-- **A duration,** in nanoseconds. -/
structure Duration where
  nanos : Nat
  deriving DecidableEq, Repr, Inhabited

namespace Duration

/-- The nanoseconds of a millisecond. -/
abbrev nanosPerMilli : Nat := 1000000

/-- The nanoseconds of a second. -/
abbrev nanosPerSecond : Nat := 1000000000

/-- No time at all. -/
def zero : Duration := ⟨0⟩

def ofMillis (n : Nat) : Duration := ⟨n * nanosPerMilli⟩

def ofSeconds (n : Nat) : Duration := ⟨n * nanosPerSecond⟩

/-- The whole milliseconds in a duration. -/
def wholeMillis (d : Duration) : Nat := d.nanos / nanosPerMilli

/-- The first whole millisecond at or after the end of the duration. -/
def millisToEnd (d : Duration) : Nat := (d.nanos + (nanosPerMilli - 1)) / nanosPerMilli

/-- The sum of durations. -/
def sum (ds : List Duration) : Duration := ⟨ds.foldr (fun d n => d.nanos + n) 0⟩

/-- A duration in seconds: the whole seconds and the rest of a second, each as a float. -/
def seconds (d : Duration) : Float :=
  (UInt64.ofNat (d.nanos / nanosPerSecond)).toFloat + (UInt64.ofNat (d.nanos % nanosPerSecond)).toFloat / 1e9

/-- The abnormal end of a conversion below zero. -/
def negativePanic : Panic := .text "cannot convert float seconds to Duration: value is negative"

/-- The abnormal end of a conversion beyond what a duration holds, or of something that is no number. -/
def overflowPanic : Panic :=
  .text "cannot convert float seconds to Duration: value is either too big or NaN"

/-- Exact binary seconds to the nearest nanosecond. -/
def ofDyadic (d : Decimal.Dyadic) : Except Panic Duration :=
  if d.negative && d.mantissa != 0 then .error negativePanic
  else if Decimal.twoTo 64 * d.denominator ≤ d.numerator then .error overflowPanic
  else .ok ⟨Decimal.roundHalfEven (d.numerator * nanosPerSecond) d.denominator⟩

/-- **Seconds to a duration,** to the nearest nanosecond. -/
def ofFloat (seconds : Float) : Except Panic Duration :=
  match Decimal.decode seconds with
  | .nan => .error overflowPanic
  | .infinite negative => .error (if negative then negativePanic else overflowPanic)
  | .finite d => ofDyadic d

/-- **A multiple of a duration.** -/
def scale (d : Duration) (factor : Float) : Except Panic Duration :=
  ofFloat (factor * d.seconds)

theorem wholeMillis_ofMillis (n : Nat) : (ofMillis n).wholeMillis = n := by
  simp [ofMillis, wholeMillis]

theorem millisToEnd_ofMillis (n : Nat) : (ofMillis n).millisToEnd = n := by
  simp only [ofMillis, millisToEnd, nanosPerMilli]
  omega

end Duration

end GrantProbe
