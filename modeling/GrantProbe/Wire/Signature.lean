import GrantProbe.Http.Message
import GrantProbe.Http.Url
import GrantProbe.Task
import GrantProbe.Tracking.Endpoint
import GrantProbe.Wire.Connection

/-!
# What crosses the wire

The requests that leave the program: to the cluster's API server, to the tracking service, and to the machine
it runs on.

* `WireAsk`, `wire`: the requests and their signature;
* `Wire`: the tasks over it, with a function for each kind of request.
-/

namespace GrantProbe

/-- **The requests that leave the program.** -/
inductive WireAsk where
  /-- Set up a connection to the cluster that a file describes, or to the one that the surroundings imply. -/
  | connect (kubeconfig : Option String)
  /-- Send a request to the cluster. -/
  | cluster (request : Http.Request)
  /-- Send a request to an address of the tracking service. -/
  | tracking (url : Http.Url) (request : Http.Request)
  /-- Read a file of certificates. -/
  | certificates (path : String)
  | sleep (d : Duration)
  /-- Draw a suffix that makes a name unique. -/
  | suffix
  /-- Draw a factor between 0.5 and 1.5. -/
  | factor
  | clock

/-- The answer to a request. -/
abbrev WireAsk.Answer : WireAsk → Type
  | connect _ => Except ConnectionFailure Unit
  | cluster _ => Http.Reply
  | tracking .. => Http.Reply
  | certificates _ => CaBundle
  | sleep _ => Unit
  | suffix => String
  | factor => Float
  | clock => Duration

/-- The signature of what crosses the wire. -/
def wire : Signature := ⟨WireAsk, WireAsk.Answer⟩

/-- **Tasks over the wire.** -/
abbrev Wire (α : Type) : Type := Task wire α

namespace Wire

def connect (kubeconfig : Option String) : Program wire (Except ConnectionFailure Unit) :=
  Program.perform (S := wire) (.connect kubeconfig)

def cluster (request : Http.Request) : Wire Http.Reply :=
  Task.always (Program.perform (S := wire) (.cluster request))

def tracking (url : Http.Url) (request : Http.Request) : Wire Http.Reply :=
  Task.always (Program.perform (S := wire) (.tracking url request))

def certificates (path : String) : Wire CaBundle :=
  Task.always (Program.perform (S := wire) (.certificates path))

def sleep (d : Duration) : Program wire Unit := Program.perform (S := wire) (.sleep d)

def suffix : Program wire String := Program.perform (S := wire) .suffix

def factor : Program wire Float := Program.perform (S := wire) .factor

def clock : Program wire Duration := Program.perform (S := wire) .clock

end Wire

end GrantProbe
