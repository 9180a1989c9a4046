import GrantProbe.Access.Verification
import GrantProbe.Identity.Issue
import GrantProbe.Tracking.Call

/-!
# What a probe asks of the world

A probe provisions identities in a cluster and acts as them at a tracking service. Everything it does to
either, and every use of time or chance, is a request of `probe`.

* `Ask`: the requests; `probe`: the signature;
* `Probe`: the tasks over it, with one function for each kind of request.
-/

namespace GrantProbe

/-- **The requests of a probe.** -/
inductive Ask where
  /-- Write or review access. -/
  | access (call : AccessCall)
  /-- Create or delete an identity. -/
  | identity (call : IdentityCall)
  /-- Build a client. -/
  | bind (client : Client)
  /-- Call the tracking service as a client. -/
  | tracking (client : Client) (call : TrackingCall)
  /-- Sleep. -/
  | sleep (d : Duration)
  /-- Draw a suffix that makes a name unique. -/
  | suffix
  /-- Read the clock. -/
  | clock

/-- The answer to a request. Calls may stop short. -/
abbrev Ask.Answer : Ask → Type
  | access c => Outcome c.Answer
  | identity c => Outcome c.Answer
  | bind _ => Unit
  | tracking _ c => Outcome c.Answer
  | sleep _ => Unit
  | suffix => String
  | clock => Duration

/-- The signature of probes. -/
abbrev probe : Signature := ⟨Ask, Ask.Answer⟩

/-- **Tasks of a probe.** -/
abbrev Probe (α : Type) : Type := Task probe α

namespace Probe

def access : AccessControl probe := fun c => Task.of (Program.perform (S := probe) (.access c))

def identity (c : IdentityCall) : Probe c.Answer :=
  Task.of (Program.perform (S := probe) (.identity c))

def bind (client : Client) : Probe Unit := Task.always (Program.perform (S := probe) (.bind client))

def tracking (client : Client) (c : TrackingCall) : Probe c.Answer :=
  Task.of (Program.perform (S := probe) (.tracking client c))

def sleep (d : Duration) : Probe Unit := Task.always (Program.perform (S := probe) (.sleep d))

def suffix : Probe String := Task.always (Program.perform (S := probe) .suffix)

def clock : Program probe Duration := Program.perform (S := probe) .clock

/-- The reviews and the sleep of a verification. -/
def reviewer : Reviewer probe Duration := ⟨fun q => access (.review q), sleep⟩

end Probe

end GrantProbe
