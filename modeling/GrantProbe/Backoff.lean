import GrantProbe.Duration

/-!
# Growing delays

A backoff is a first delay and a rule for the next one. The rule may fail, since a delay can grow beyond
what a duration holds. The kind of delay is a parameter: the clock's durations when the program runs, and
exact numbers when its schedule is reasoned about.

* `Backoff`, with `Backoff.delay` for the delay after a number of steps;
* `Backoff.geometric`: durations multiplied by a float;
* `powBySquaring`, `geometricTotal`: the closed form of a schedule's total.
-/

namespace GrantProbe

/-- **A schedule of delays.** -/
structure Backoff (δ : Type) where
  first : δ
  next : δ → Except Panic δ

/-- The delay after a number of steps. -/
def Backoff.delay {δ : Type} (b : Backoff δ) : Nat → Except Panic δ
  | 0 => .ok b.first
  | n + 1 => b.delay n >>= b.next

/-- Durations that are multiplied at every step. -/
def Backoff.geometric (first : Duration) (factor : Float) : Backoff Duration :=
  ⟨first, fun d => d.scale factor⟩

/-- A power, by squaring: the factors are taken in the order of the exponent's bits, lowest first. -/
def powBySquaring {κ : Type} [Mul κ] (acc base : κ) (n : Nat) : κ :=
  if h : n = 0 then acc
  else
    let acc := if n % 2 = 1 then acc * base else acc
    if n < 2 then acc else powBySquaring acc (base * base) (n / 2)
termination_by n

/-- **The total of a geometric schedule:** `copies` times the sum of the first `count` delays. -/
def geometricTotal {κ : Type} [Add κ] [Mul κ] (zero one first factor copies : κ) (count : Nat) : κ :=
  ((List.range count).map fun i => first * powBySquaring one factor i).foldl (· + ·) zero * copies

end GrantProbe
