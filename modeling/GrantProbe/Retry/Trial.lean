import GrantProbe.Retry

/-!
# Retries as programs

What a retry asks of the world, as a signature of its own: attempts, sleeps and random factors.

* `trialOf`: the signature, for any kind of delays; `trial`: the same on the clock;
* `RetrySettings.trial`: a retry under settings, as a program over it; `RetryConfig.trial`: on the clock.
-/

namespace GrantProbe

/-- **The requests of a retry.** -/
inductive TrialAsk (δ : Type) where
  /-- Run the operation once more. -/
  | attempt
  | sleep (d : δ)
  /-- Draw a factor between 0.5 and 1.5. -/
  | draw

/-- The answer to a request. -/
abbrev TrialAsk.Answer {δ : Type} (κ ε α : Type) : TrialAsk δ → Type
  | attempt => Except ε α
  | sleep _ => Unit
  | draw => κ

/-- The signature of retries of an operation, with delays `δ` and factors `κ`. -/
def trialOf (δ κ ε α : Type) : Signature := ⟨TrialAsk δ, TrialAsk.Answer κ ε α⟩

/-- The signature of retries on the clock. -/
abbrev trial (ε α : Type) : Signature := trialOf Duration Float ε α

variable {δ κ ε α : Type}

/-- One attempt. -/
def attempt : ExceptT Panic (Program (trialOf δ κ ε α)) (Except ε α) :=
  ExceptT.lift (Program.perform (S := trialOf δ κ ε α) .attempt)

/-- **A retry under settings,** of an operation that is followed for `patience` attempts after the first
when their number is not limited. -/
def RetrySettings.trial [Mul κ] [Min κ] (c : RetrySettings δ κ) (arithmetic : DelayArithmetic δ κ)
    (patience : Nat) : ExceptT Panic (Program (trialOf δ κ ε α)) (Option (Except ε α)) :=
  c.run
    (c.pace arithmetic (fun d => Program.perform (S := trialOf δ κ ε α) (.sleep d))
      (Program.perform (S := trialOf δ κ ε α) .draw))
    patience attempt

/-- A retry on the clock. -/
def RetryConfig.trial (c : RetryConfig) (patience : Nat) :
    ExceptT Panic (Program (GrantProbe.trial ε α)) (Option (Except ε α)) :=
  RetrySettings.trial c .clock patience

end GrantProbe
