/-!
# Programs

A computation that talks to the outside world, as a tree: it is finished, or it asks a request and
goes on with the answer. What the world answers is not part of the tree, so a statement about every
behaviour of the world is a statement about every way to answer.

* `Signature`: the requests and the type of the answer to each;
* `Program`: the trees, with `Program.bind` and the monad laws;
* `Handler`, `Program.run`: answering from a state; `Program.trace`: the requests a run makes;
* `Program.interpret`: answering one signature by programs over another.
-/

namespace GrantProbe

/-- **The requests of a kind of program** and the type of the answer to each. -/
structure Signature where
  Request : Type
  Answer : Request → Type

/-- **A program** over a signature. -/
inductive Program (S : Signature) (α : Type) : Type where
  | done (result : α)
  | ask (request : S.Request) (next : S.Answer request → Program S α)

namespace Program

variable {S T : Signature} {α β γ : Type}

/-- One program after another. -/
def bind : Program S α → (α → Program S β) → Program S β
  | done a, k => k a
  | ask r next, k => ask r fun x => (next x).bind k

instance : Monad (Program S) where
  pure := done
  bind := bind

/-- The program that asks one request and returns the answer. -/
def perform (r : S.Request) : Program S (S.Answer r) := ask r done

@[simp] theorem pure_eq (a : α) : (pure a : Program S α) = done a := rfl

@[simp] theorem bind_eq (p : Program S α) (k : α → Program S β) : p >>= k = p.bind k := rfl

@[simp] theorem done_bind (a : α) (k : α → Program S β) : (done a).bind k = k a := rfl

@[simp] theorem ask_bind (r : S.Request) (next : S.Answer r → Program S α)
    (k : α → Program S β) : (ask r next).bind k = ask r fun x => (next x).bind k := rfl

@[simp] theorem bind_done (p : Program S α) : p.bind done = p := by
  induction p with
  | done a => rfl
  | ask r next ih => simp [ih]

theorem bind_assoc (p : Program S α) (k : α → Program S β) (l : β → Program S γ) :
    (p.bind k).bind l = p.bind fun a => (k a).bind l := by
  induction p with
  | done a => rfl
  | ask r next ih => simp [ih]

instance : LawfulMonad (Program S) :=
  LawfulMonad.mk' (Program S) (fun p => bind_done p) (fun _ _ => rfl) bind_assoc

/-! ## Running -/

/-- **A behaviour of the world:** a state and an answer to every request in it. -/
abbrev Handler (S : Signature) (σ : Type) : Type := (r : S.Request) → σ → S.Answer r × σ

variable {σ : Type}

/-- **A run** from a state: the result and the state afterwards. -/
def run (h : Handler S σ) : Program S α → σ → α × σ
  | done a, s => (a, s)
  | ask r next, s => (next (h r s).1).run h (h r s).2

@[simp] theorem run_done (h : Handler S σ) (a : α) (s : σ) :
    (done a : Program S α).run h s = (a, s) := rfl

@[simp] theorem run_ask (h : Handler S σ) (r : S.Request) (next : S.Answer r → Program S α) (s : σ) :
    (ask r next).run h s = (next (h r s).1).run h (h r s).2 := rfl

theorem run_bind (h : Handler S σ) (p : Program S α) (k : α → Program S β) (s : σ) :
    (p.bind k).run h s = (k (p.run h s).1).run h (p.run h s).2 := by
  induction p generalizing s with
  | done a => rfl
  | ask r next ih => simp [ih]

/-- **The requests of a run,** in order. -/
def trace (h : Handler S σ) : Program S α → σ → List S.Request
  | done _, _ => []
  | ask r next, s => r :: (next (h r s).1).trace h (h r s).2

@[simp] theorem trace_done (h : Handler S σ) (a : α) (s : σ) :
    (done a : Program S α).trace h s = [] := rfl

@[simp] theorem trace_ask (h : Handler S σ) (r : S.Request) (next : S.Answer r → Program S α)
    (s : σ) : (ask r next).trace h s = r :: (next (h r s).1).trace h (h r s).2 := rfl

theorem trace_bind (h : Handler S σ) (p : Program S α) (k : α → Program S β) (s : σ) :
    (p.bind k).trace h s = p.trace h s ++ (k (p.run h s).1).trace h (p.run h s).2 := by
  induction p generalizing s with
  | done a => rfl
  | ask r next ih => simp [ih]

/-! ## Answering by programs -/

/-- **Refinement.** Every request is answered by a program over another signature. -/
def interpret (h : (r : S.Request) → Program T (S.Answer r)) : Program S α → Program T α
  | done a => done a
  | ask r next => (h r).bind fun x => (next x).interpret h

end Program

end GrantProbe
