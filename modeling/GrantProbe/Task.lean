import GrantProbe.Error
import GrantProbe.Program

/-!
# Tasks

A task is a program that may stop short, with an error or with an abnormal end. An error can be handled;
an abnormal end passes through everything but the suite runner.

* `Task`: programs with an `Outcome`; `Task.of`, `Task.attempt` go between the two views;
* `Task.retitle`: the same task with its errors reworded.
-/

namespace GrantProbe

/-- **A program that may stop short.** -/
abbrev Task (S : Signature) (α : Type) : Type := ExceptT Stop (Program S) α

namespace Task

variable {S : Signature} {α : Type}

/-- A program with an outcome, as a task. -/
def of (p : Program S (Outcome α)) : Task S α := ExceptT.mk p

/-- A program that cannot stop short, as a task. -/
def always (p : Program S α) : Task S α := ExceptT.lift p

/-- Stops with an error. -/
def fail (e : Error) : Task S α := throw (.error e)

/-- Stops abnormally. -/
def abort (p : Panic) : Task S α := throw (.panic p)

/-- A result that may be an error. -/
def check : Except Error α → Task S α
  | .ok a => pure a
  | .error e => fail e

/-- A result that may be an abnormal end. -/
def checkPanic : Except Panic α → Task S α
  | .ok a => pure a
  | .error p => abort p

/-- **Handling errors.** The error, if the task failed; an abnormal end passes through. -/
def attempt (t : Task S α) : Task S (Except Error α) :=
  ExceptT.mk <| Program.bind t.run fun
    | .ok a => .done (.ok (.ok a))
    | .error (.error e) => .done (.ok (.error e))
    | .error (.panic p) => .done (.error (.panic p))

/-- The same task with its errors reworded. -/
def retitle (f : Error → Error) (t : Task S α) : Task S α :=
  ExceptT.mk <| Program.bind t.run fun
    | .ok a => .done (.ok a)
    | .error (.error e) => .done (.error (.error (f e)))
    | .error (.panic p) => .done (.error (.panic p))

end Task

end GrantProbe
