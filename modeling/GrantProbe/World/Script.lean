import GrantProbe.Access.Document
import GrantProbe.Error.Document
import GrantProbe.Identity.Protocol
import GrantProbe.Retry.Trial
import GrantProbe.World.Fault

/-!
# Scripted backends

Backends that answer from a script: each name of a call has a list of replies, of which the last one stays.
Time passes only while something sleeps.

* `Script`, with `Script.next` and `Script.reply`: the replies that are left, the clock and the calls;
* `Script.access`, `Script.account`, `Trials.answer`: backends for grants, for identities and for retries.
-/

namespace GrantProbe

/-- **A script:** the replies that are left by the name of the call, the clock in milliseconds, and the
calls so far. -/
structure Script where
  replies : List (String × List Json)
  now : Nat
  calls : List Json

namespace Script

/-- The script of a description. -/
def ofDocument (j : Json) : Script :=
  ⟨(j.entriesAt "script").map fun e => (e.1, e.2.items?.getD []), 0, []⟩

/-- What is left of replies after one has been given: the last one stays. -/
def remaining : List Json → List Json
  | _ :: next :: rest => next :: rest
  | replies => replies

/-- **The next reply** to a call, and null when there is none. -/
def next (s : Script) (name : String) : Json × Script :=
  let replies := ((s.replies.find? (·.1 == name)).map Prod.snd).getD []
  (replies.headD .null,
    { s with replies := s.replies.map fun e => if e.1 == name then (name, remaining e.2) else e })

/-- Gives the next reply to a call, which is an error or stands for a value. -/
def reply {α : Type} (s : Script) (name : String) (arguments : List Json) (decode : Json → α) :
    Outcome α × Script :=
  let (j, s) := s.next name
  let s := { s with calls := s.calls ++ [.list (.text name :: arguments)] }
  match j.field? "error" with
  | some e => (.error (.error (.ofDocument e)), s)
  | none => (.ok (decode j), s)

/-- The script after a sleep. -/
def sleep (s : Script) (d : Duration) : Script := { s with now := s.now + d.millisToEnd }

/-- The script with the calls so far forgotten. -/
def forgetCalls (s : Script) : Script := { s with calls := [] }

/-- The answers to calls for access. -/
def accessReply (s : Script) : (c : AccessCall) → Outcome c.Answer × Script
  | .createRole scope role rules =>
    s.reply "create_role" [.text scope, .text role, .texts (rules.map Rule.line)] Creation.ofDocument
  | .createBinding scope binding role identity =>
    s.reply "create_binding" [.text scope, .text binding, .text role, .text identity]
      Creation.ofDocument
  | .deleteRole scope role => s.reply "delete_role" [.text scope, .text role] fun _ => ()
  | .deleteBinding scope binding => s.reply "delete_binding" [.text scope, .text binding] fun _ => ()
  | .review q =>
    s.reply "query_decision"
      [.text q.user, .text q.scope, .text q.resource.text, .text q.verb.text, .text q.group,
        .count s.now]
      Decision.ofDocument

/-- **A backend for grants.** -/
def access : Program.Handler probe Script := fun request s =>
  match request with
  | .access c => s.accessReply c
  | .sleep d => ((), s.sleep d)
  | .identity (.create name scope) => (.ok ⟨name, scope, ⟨""⟩⟩, s)
  | .identity (.delete ..) => (.ok (), s)
  | .bind _ => ((), s)
  | .tracking _ _ => (.error (.panic .noText), s)
  | .suffix => ("", s)
  | .clock => (.ofMillis s.now, s)

/-- **A backend for identities.** -/
def account : Program.Handler accountSignature Script := fun request s =>
  match request with
  | .call (.create name scope) =>
    s.reply "create_service_account" [.text name, .text scope, .count s.now] Creation.ofDocument
  | .call (.requestToken name scope) =>
    s.reply "request_token" [.text name, .text scope, .count s.now] fun j => j.text?.getD ""
  | .call (.delete name scope) =>
    s.reply "delete_service_account" [.text name, .text scope, .count s.now] fun _ => ()
  | .sleep d => ((), s.sleep d)

end Script

/-- **An operation that fails a number of times:** the attempts so far, when they were made, and the delays
between them. -/
structure Trials where
  failures : Nat
  now : Nat
  times : List Nat
  delays : List Duration

/-- A backend for retries. An attempt gives its number. -/
def Trials.answer : Program.Handler (trial String Nat) Trials := fun request s =>
  match request with
  | .attempt =>
    let n := s.times.length + 1
    (if n ≤ s.failures then .error ("failure " ++ toString n) else .ok n,
      { s with times := s.times ++ [s.now] })
  | .sleep d => ((), { s with now := s.now + d.millisToEnd, delays := s.delays ++ [d] })
  | .draw => ((1.0 : Float), s)

end GrantProbe
