import GrantProbe.Probe.Setting
import GrantProbe.World.Cluster
import GrantProbe.World.Server

/-!
# A simulated world

A cluster and a tracking server that enforces what the cluster stores, with a clock that only sleeping
moves, in whole milliseconds.

* `World`, with `World.answer`: the answer to every request of a probe;
* `World.permits`: who may do what at the tracking server.
-/

namespace GrantProbe

/-- **A world.** Without enforcement the tracking server asks nobody for permission. -/
structure World where
  cluster : Cluster
  server : Server
  enforce : Bool
  /-- Milliseconds since the beginning. -/
  now : Nat
  /-- How many suffixes have been drawn. -/
  draws : Nat
  deriving Inhabited

namespace World

/-- A world in which nothing has happened. -/
def fresh (group : String) (lag : Nat) (enforce : Bool) : World :=
  ⟨.empty group lag, .empty, enforce, 0, 0⟩

/-- **Permission** for a call by a client: the administrator has it, and whoever the cluster's objects
grant it to in the client's workspace. -/
def permits (w : World) (client : Client) (call : TrackingCall) : Bool :=
  client.identity == adminName || !w.enforce ||
    w.cluster.allows client.identity client.workspace call.needs.2.text call.needs.1.text

/-- The answer to a call to the tracking server. -/
def tracking (w : World) (client : Client) (call : TrackingCall) :
    Outcome call.Answer × World :=
  if w.permits client call then
    let (answer, server) := w.server.perform client.workspace call
    (answer.mapError .error, { w with server := server })
  else (.error (.error (refusal call)), w)

/-- The world after a sleep, which ends on a whole millisecond. -/
def sleep (w : World) (d : Duration) : World := { w with now := w.now + d.millisToEnd }

/-- **The answer to a request.** -/
def answer : Program.Handler probe World := fun request w =>
  match request with
  | .access call =>
    let (answer, cluster) := w.cluster.access call
    (.ok answer, { w with cluster := cluster })
  | .identity call =>
    let (answer, cluster) := w.cluster.identity call
    (.ok answer, { w with cluster := cluster })
  | .bind _ => ((), w)
  | .tracking client call => w.tracking client call
  | .sleep d => ((), w.sleep d)
  | .suffix => (toString (w.draws + 1), { w with draws := w.draws + 1 })
  | .clock => (.ofMillis w.now, w)

end World

end GrantProbe
