import GrantProbe.Backoff
import GrantProbe.Task

/-!
# Retrying

An operation that fails for a while is repeated with growing delays.

* `Pace`: the delays of a retry and how each is waited for;
* `retryUpTo`: repetition with a bound on the attempts that follow the first;
* `DelayArithmetic`: how delays are computed, on the clock or exactly;
* `RetrySettings`: the settings, with `nextDelay`, `pace` and `run`: repetition under settings whose number
  of attempts may be unlimited;
* `RetryConfig`: settings on the clock, with `standard` and `tokenRequest`.
-/

namespace GrantProbe

variable {S : Signature} {α ε δ : Type}

/-- **The pace of a retry:** its delays, and the wait for one of them. -/
structure Pace (S : Signature) (δ : Type) extends Backoff δ where
  wait : δ → ExceptT Panic (Program S) Unit

/-- **Repetition.** Runs the operation until it succeeds, at most `more` times after the first, and gives
the first success or the last error. It waits between attempts and not after the last. -/
def retryUpTo (pace : Pace S δ) (operation : ExceptT Panic (Program S) (Except ε α)) :
    (more : Nat) → δ → ExceptT Panic (Program S) (Except ε α)
  | 0, _ => operation
  | more + 1, delay => do
    match ← operation with
    | .ok a => pure (.ok a)
    | .error _ =>
      pace.wait delay
      let delay ← liftExcept (pace.next delay)
      retryUpTo pace operation more delay
where
  /-- A computed value that may be an abnormal end. -/
  liftExcept {β : Type} : Except Panic β → ExceptT Panic (Program S) β
    | .ok b => pure b
    | .error p => throw p

/-- **The arithmetic of delays:** the number that a delay is, and the delay that a number is. Not every
number is a delay, so the way back may fail. The kind of delay is a parameter: the clock's durations when
the program runs, and exact numbers when its delays are reasoned about. -/
structure DelayArithmetic (δ κ : Type) where
  number : δ → κ
  delay : κ → Except Panic δ

/-- The clock's arithmetic: durations as binary seconds. -/
def DelayArithmetic.clock : DelayArithmetic Duration Float := ⟨Duration.seconds, Duration.ofFloat⟩

/-- **The settings of a retry.** No attempts at all stands for no limit. -/
structure RetrySettings (δ κ : Type) where
  maxAttempts : Nat
  initialDelay : δ
  maxDelay : δ
  multiplier : κ
  jitter : Bool

namespace RetrySettings

variable {κ : Type}

/-- The delay after a delay: multiplied, and no longer than the maximum. -/
def nextDelay [Mul κ] [Min κ] (c : RetrySettings δ κ) (arithmetic : DelayArithmetic δ κ) (d : δ) :
    Except Panic δ :=
  arithmetic.delay (min (arithmetic.number d * c.multiplier) (arithmetic.number c.maxDelay))

/-- A delay with a random factor applied. -/
def jittered [Mul κ] (arithmetic : DelayArithmetic δ κ) (d : δ) (factor : κ) : Except Panic δ :=
  arithmetic.delay (arithmetic.number d * factor)

/-- The pace that settings describe, given how to sleep and how to draw a factor between 0.5 and 1.5. -/
def pace [Mul κ] [Min κ] (c : RetrySettings δ κ) (arithmetic : DelayArithmetic δ κ)
    (sleep : δ → Program S Unit) (draw : Program S κ) : Pace S δ where
  first := c.initialDelay
  next := c.nextDelay arithmetic
  wait d := do
    if c.jitter then
      let factor ← ExceptT.lift draw
      match jittered arithmetic d factor with
      | .ok d => ExceptT.lift (sleep d)
      | .error p => throw p
    else ExceptT.lift (sleep d)

/-- **A retry under settings.** When the number of attempts is unlimited, the operation is followed for
`patience` attempts after the first, and there is no result if it never succeeded. -/
def run (c : RetrySettings δ κ) (pace : Pace S δ) (patience : Nat)
    (operation : ExceptT Panic (Program S) (Except ε α)) :
    ExceptT Panic (Program S) (Option (Except ε α)) :=
  if c.maxAttempts = 0 then do
    match ← retryUpTo pace operation patience pace.first with
    | .ok a => pure (some (.ok a))
    | .error _ => pure none
  else do
    let result ← retryUpTo pace operation (c.maxAttempts - 1) pace.first
    pure (some result)

end RetrySettings

/-- Settings on the clock. -/
abbrev RetryConfig : Type := RetrySettings Duration Float

namespace RetryConfig

/-- Without a limit, from 100 ms, doubling up to 30 s, each delay randomised. -/
def standard : RetryConfig := ⟨0, .ofMillis 100, .ofSeconds 30, 2.0, true⟩

/-- The standard settings with a limit. -/
def withMaxAttempts (n : Nat) : RetryConfig := { standard with maxAttempts := n }

/-- For issuing tokens: five attempts from 1 s, growing by half up to 10 s, not randomised. -/
def tokenRequest : RetryConfig := ⟨5, .ofSeconds 1, .ofSeconds 10, 1.5, false⟩

end RetryConfig

end GrantProbe
