import GrantProbe.Proofs.Execution
import GrantProbe.World.Simulation

/-!
# A world whose reviews are exact

The simulated world answers reviews under one API group alone and draws suffixes in order. Here
reviews go by the group that they name, like the tracking server's own checks, and the suffixes are
given.

* `Cluster.allowsUnder`: what the stored objects allow under a group;
* `World.answerWith`: the answer to every request, with given suffixes;
* `exec_access` and its like: a request as a task.
-/

namespace GrantProbe

open Program (Handler)

namespace Cluster

/-- **What the stored objects allow under a group:** some binding of the scope gives the identity a
role with a rule on the group, the verb and the resource. -/
def allowsUnder (c : Cluster) (group identity scope resource verb : String) : Bool :=
  c.bindings.any fun b =>
    b.scope == scope && b.subject == identity &&
      ((c.role? scope b.role).any fun rules => rulesAllow rules group resource verb)

theorem allows_eq (c : Cluster) (identity scope resource verb : String) :
    c.allows identity scope resource verb =
      c.allowsUnder trackingGroup identity scope resource verb := rfl

/-- The decision on a review, under the group that it names. -/
def decideExactly (c : Cluster) (q : Review) : Decision :=
  if c.allowsUnder q.group q.identity q.scope q.resource.text q.verb.text then .allowed
  else .denied (some "no RBAC policy matched")

/-- Answering a review, once as many have been denied as the cluster lags behind. -/
def reviewExactly (c : Cluster) (q : Review) : Decision × Cluster :=
  match c.lag with
  | 0 => (c.decideExactly q, c)
  | lag + 1 => (.denied none, { c with lag := lag })

end Cluster

/-- **The answer to a request** of a world with exact reviews, in which the `n`-th suffix is
`draw n`. -/
def World.answerWith (draw : Nat → String) : Handler probe World := fun request w =>
  match request with
  | .access (.review q) =>
    (.ok (w.cluster.reviewExactly q).1, { w with cluster := (w.cluster.reviewExactly q).2 })
  | .suffix => (draw w.draws, { w with draws := w.draws + 1 })
  | request => w.answer request

/-! ## Requests as tasks -/

section
variable {σ : Type} (h : Handler probe σ) (w : σ)

@[simp] theorem exec_access (c : AccessCall) : (Probe.access c).exec h w = h (.access c) w := rfl

@[simp] theorem exec_identity (c : IdentityCall) :
    (Probe.identity c).exec h w = h (.identity c) w := rfl

@[simp] theorem exec_tracking (client : Client) (c : TrackingCall) :
    (Probe.tracking client c).exec h w = h (.tracking client c) w := rfl

@[simp] theorem exec_probeBind (client : Client) :
    (Probe.bind client).exec h w = (.ok (), (h (.bind client) w).2) := Task.exec_always ..

@[simp] theorem exec_sleep (d : Duration) :
    (Probe.sleep d).exec h w = (.ok (), (h (.sleep d) w).2) :=
  Task.exec_always ..

@[simp] theorem exec_suffix :
    Probe.suffix.exec h w = (.ok (h .suffix w).1, (h .suffix w).2) := Task.exec_always ..

end

namespace World

variable (draw : Nat → String) (w : World)

@[simp] theorem answerWith_review (q : Review) :
    answerWith draw (.access (.review q)) w =
      (.ok (w.cluster.reviewExactly q).1, { w with cluster := (w.cluster.reviewExactly q).2 }) :=
  rfl

@[simp] theorem answerWith_suffix :
    answerWith draw .suffix w = (draw w.draws, { w with draws := w.draws + 1 }) := rfl

@[simp] theorem answerWith_identity (c : IdentityCall) :
    answerWith draw (.identity c) w =
      (.ok (w.cluster.identity c).1, { w with cluster := (w.cluster.identity c).2 }) := rfl

@[simp] theorem answerWith_bind (client : Client) : answerWith draw (.bind client) w = ((), w) :=
  rfl

@[simp] theorem answerWith_tracking (client : Client) (c : TrackingCall) :
    answerWith draw (.tracking client c) w = w.tracking client c := rfl

@[simp] theorem answerWith_sleep (d : Duration) : answerWith draw (.sleep d) w = ((), w.sleep d) :=
  rfl

@[simp] theorem answerWith_clock : answerWith draw .clock w = (.ofMillis w.now, w) := rfl

theorem answerWith_access {c : AccessCall} (hc : ∀ q, c ≠ .review q) :
    answerWith draw (.access c) w =
      (.ok (w.cluster.access c).1, { w with cluster := (w.cluster.access c).2 }) := by
  cases c with
  | review q => exact absurd rfl (hc q)
  | _ => rfl

end World

end GrantProbe
