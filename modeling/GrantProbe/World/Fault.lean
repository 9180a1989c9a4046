import GrantProbe.World.Simulation

/-!
# Faults

A world in which some calls go wrong: they take time, fail, end abnormally, or are answered with something
that is not so.

* `CallLabel`, `Ask.label?`: what a call is called, who makes it and where;
* `Fault`: which calls go wrong, and how;
* `FaultyWorld`, with `FaultyWorld.answer`: the answer to every request, and the requests so far.
-/

namespace GrantProbe

/-- What a call is called, whom or what it is about, and where. -/
structure CallLabel where
  operation : String
  subject : String
  scope : String
  deriving DecidableEq, Repr, Inhabited

/-- The label of a call for access. -/
def AccessCall.label : AccessCall → CallLabel
  | createRole scope role _ => ⟨"create_role", role, scope⟩
  | createBinding scope binding _ _ => ⟨"create_binding", binding, scope⟩
  | deleteRole scope role => ⟨"delete_role", role, scope⟩
  | deleteBinding scope binding => ⟨"delete_binding", binding, scope⟩
  | review q => ⟨"query_decision", q.identity, q.scope⟩

/-- The label of a call for identities. -/
def IdentityCall.label : IdentityCall → CallLabel
  | create name scope => ⟨"create_identity", name, scope⟩
  | delete name scope => ⟨"delete_identity", name, scope⟩

/-- **The label of a request** that is a call. -/
def Ask.label? : Ask → Option CallLabel
  | access c => some c.label
  | identity c => some c.label
  | tracking client c => some ⟨c.name, client.identity, client.workspace⟩
  | _ => none

/-- What a fault does to a call. -/
inductive Effect where
  /-- The call goes on. -/
  | none
  /-- The call stops short. -/
  | stop (s : Stop)
  /-- The call is answered with a given value, if there is one for it. -/
  | reply (value : (request : Ask) → Option request.Answer)

/-- **A fault.** It meets the calls of a name, perhaps only those in one scope, or by one side, the
administrator or the others, and of those perhaps only the one with a given number. -/
structure Fault where
  operation : String
  scope : Option String
  byAdmin : Option Bool
  number : Option Nat
  delay : Duration
  effect : Effect

/-- The fault counts the call. -/
def Fault.meets (f : Fault) (call : CallLabel) : Bool :=
  f.operation == call.operation && f.scope.all (· == call.scope) &&
    f.byAdmin.all (· == (call.subject == adminName))

/-- The answer of a request that stops short, if it is a call. -/
def Ask.stopped (s : Stop) : (request : Ask) → Option request.Answer
  | access _ => some (.error s)
  | identity _ => some (.error s)
  | tracking _ _ => some (.error s)
  | bind _ => none
  | sleep _ => none
  | suffix => none
  | clock => none

/-- What an effect answers. -/
def Effect.answer? (e : Effect) (request : Ask) : Option request.Answer :=
  match e with
  | none => Option.none
  | stop s => request.stopped s
  | reply value => value request

/-- **A world with faults,** each with the number of calls it has met, and the requests so far, the last
one first. -/
structure FaultyWorld where
  world : World
  faults : List (Fault × Nat)
  requests : List Ask

namespace FaultyWorld

/-- The faults after a call. -/
def count (call : CallLabel) (faults : List (Fault × Nat)) : List (Fault × Nat) :=
  faults.map fun f => if f.1.meets call then (f.1, f.2 + 1) else f

/-- The fault that applies to a call, which the faults have counted. -/
def applicable? (call : CallLabel) (faults : List (Fault × Nat)) : Option Fault :=
  (faults.find? fun f => f.1.meets call && f.1.number.all (· == f.2)).map Prod.fst

/-- The answer to a request on which nothing goes wrong. -/
def pass (request : Ask) (s : FaultyWorld) : request.Answer × FaultyWorld :=
  let (answer, world) := s.world.answer request
  (answer, { s with world := world })

/-- **The answer to a request.** -/
def answer : Program.Handler probe FaultyWorld := fun request s =>
  let s := { s with requests := request :: s.requests }
  match request.label? with
  | none => s.pass request
  | some call =>
    let faults := count call s.faults
    let s := { s with faults := faults }
    match applicable? call faults with
    | none => s.pass request
    | some f =>
      let s := { s with world := s.world.sleep f.delay }
      match f.effect.answer? request with
      | some answer => (answer, s)
      | none => s.pass request

end FaultyWorld

end GrantProbe
