import GrantProbe.Proofs.Tracking.Wording
import GrantProbe.Proofs.Transcript
import GrantProbe.Wire.Tracking

/-!
# Where a refusal ends an operation

An operation of the tracking service is a few requests, one after the other. The first that is
refused is the last: the operation fails with the words of that reply.

* `Program.EndsAt`, `Task.StopsAt`: answers that end every run that meets them, with a lemma for each
  way to build a task and `exec_of_mem_dialogue` for its runs;
* `refusal?`, `refusals`: the replies that refuse, with `exec_of_mem_refusals` for all operations.
-/

namespace GrantProbe

open Program (Handler)

variable {S : Signature} {σ α β γ : Type}

/-! ## Answers that end a run -/

namespace Program

/-- **Final exchanges:** a run of the program that meets an exchange with a verdict ends there, with
a result that `P` allows for the verdict. -/
def EndsAt (verdict : Exchange S → Option γ) (P : γ → α → Prop) : Program S α → Prop
  | done _ => True
  | ask r next => ∀ x,
      (∀ v, verdict ⟨r, x⟩ = some v → ∃ a, next x = done a ∧ P v a) ∧ (next x).EndsAt verdict P

variable {verdict : Exchange S → Option γ} {P : γ → α → Prop}

theorem EndsAt.run_of_mem_dialogue {p : Program S α} (hp : p.EndsAt verdict P) {h : Handler S σ}
    {w : σ} {x : Exchange S} (hx : x ∈ p.dialogue h w) {v : γ} (hv : verdict x = some v) :
    P v (p.run h w).1 := by
  induction p generalizing w with
  | done a => exact absurd hx List.not_mem_nil
  | ask r next ih =>
    obtain ⟨hends, hrest⟩ := hp (h r w).1
    rcases List.mem_cons.mp hx with rfl | hx
    · obtain ⟨a, hnext, ha⟩ := hends v hv
      have hrun : (ask r next).run h w = (next (h r w).1).run h (h r w).2 := rfl
      rw [hrun, hnext]
      exact ha
    · exact ih (h r w).1 hrest hx

end Program

namespace Task

variable {verdict : Exchange S → Option γ} {P : γ → Error → Prop}

/-- **Final exchanges of a task:** where it meets one, it fails with an error that `P` allows. -/
structure StopsAt (verdict : Exchange S → Option γ) (P : γ → Error → Prop) (t : Task S α) :
    Prop where
  ends : Program.EndsAt verdict (fun v o => ∃ e, o = .error (.error e) ∧ P v e) t.run

theorem stopsAt_pure (a : α) : StopsAt verdict P (pure a : Task S α) := ⟨trivial⟩

theorem stopsAt_fail (e : Error) : StopsAt verdict P (fail e : Task S α) := ⟨trivial⟩

theorem stopsAt_check (r : Except Error α) : StopsAt verdict P (check r : Task S α) := by
  cases r with
  | error e => exact stopsAt_fail e
  | ok a => exact stopsAt_pure a

theorem StopsAt.bind {t : Task S α} {k : α → Task S β} (ht : t.StopsAt verdict P)
    (hk : ∀ a, (k a).StopsAt verdict P) : (t >>= k).StopsAt verdict P := by
  have hrun : (t >>= k).run = t.run.bind (ExceptT.bindCont k) := rfl
  refine ⟨?_⟩
  rw [hrun]
  have hends := ht.ends
  generalize t.run = p at hends
  induction p with
  | done o =>
    rcases o with e | a
    · trivial
    · exact (hk a).ends
  | ask r next ih =>
    intro x
    obtain ⟨hfinal, hrest⟩ := hends x
    refine ⟨fun v hv => ?_, ih x hrest⟩
    obtain ⟨o, hnext, e, rfl, he⟩ := hfinal v hv
    refine ⟨.error (.error e), ?_, e, rfl, he⟩
    show (next x).bind (ExceptT.bindCont k) = _
    rw [hnext]
    rfl

theorem StopsAt.exec_of_mem_dialogue {t : Task S α} (ht : t.StopsAt verdict P) {h : Handler S σ}
    {w : σ} {x : Exchange S} (hx : x ∈ t.dialogue h w) {v : γ} (hv : verdict x = some v) :
    ∃ e, (t.exec h w).1 = .error (.error e) ∧ P v e :=
  ht.ends.run_of_mem_dialogue hx hv

end Task

/-! ## Refused requests -/

/-- **The reply of an exchange that refuses it:** a status that is no success, and the body. -/
def refusal? : Exchange wire → Option (Nat × Bytes)
  | ⟨.tracking _ _, reply⟩ =>
    match reply with
    | .response status body => if Http.isSuccess status then none else some (status, body)
    | _ => none
  | _ => none

/-- **The refusals of a dialogue,** each with its status and body, in order. -/
def refusals (D : List (Exchange wire)) : List (Nat × Bytes) := D.filterMap refusal?

/-- A world in which the tracking service gives every request the same reply. -/
def everyReply (reply : Http.Reply) : Handler wire Unit := fun request _ =>
  match request with
  | .connect _ => (.ok (), ())
  | .cluster _ => (.failed Http.connectFailure, ())
  | .tracking .. => (reply, ())
  | .certificates path => (⟨path, none⟩, ())
  | .sleep _ => ((), ())
  | .suffix => ("", ())
  | .factor => ((1.0 : Float), ())
  | .clock => (.ofMillis 0, ())

/-- A client of a tracking service. -/
def sampleService : Service :=
  ⟨⟨"http://mlflow:5000"⟩, ⟨"alice", ⟨"token"⟩, "workspace1"⟩⟩

/-- The error of an operation that met a reply that refuses it. -/
def FailedBy (reply : Nat × Bytes) (e : Error) : Prop :=
  ∃ operation ∈ operationNames,
    e = .tracking operation reply.1 (failureText reply.1 (Text.lossy reply.2))

namespace Service

variable (s : Service)

theorem stopsAt_send {operation : String} (h : operation ∈ operationNames) (method : Http.Method)
    (address : String) (query : List (String × String)) (content : Content) :
    (s.send operation method address query content).StopsAt refusal? FailedBy := by
  unfold send
  cases s.goal address query with
  | error cause => exact Task.stopsAt_fail _
  | ok url =>
    refine ⟨fun reply => ⟨fun v hv => ?_, (Task.stopsAt_check _).ends⟩⟩
    cases reply with
    | failed => cases hv
    | interrupted => cases hv
    | response status body =>
      cases hsuccess : Http.isSuccess status with
      | true => simp [refusal?, hsuccess] at hv
      | false =>
        have hv' : (status, body) = v := by simpa [refusal?, hsuccess] using hv
        subst hv'
        have hreply : replyBody operation url (.response status body) =
            .error (.tracking operation status (failureText status (Text.lossy body))) := by
          rw [replyBody, hsuccess]
          rfl
        refine ⟨.error (.error _), ?_, _, rfl, operation, h, rfl⟩
        show (Task.check (replyBody operation url (.response status body))).run = _
        rw [hreply]
        rfl

/-! ### Operations -/

variable {s} {operation : String} (h : operation ∈ operationNames)
include h

theorem stopsAt_call {α : Type} (method : Http.Method) (path : String)
    (query : List (String × String)) (content : Content) (r : Json.Reader α) :
    (s.call operation method path query content r).StopsAt refusal? FailedBy := by
  unfold call
  refine Task.StopsAt.bind (stopsAt_send s h method _ query content) fun reply => ?_
  exact Task.stopsAt_check _

theorem stopsAt_upload (root path : String) (content : Bytes) :
    (s.upload operation root path content).StopsAt refusal? FailedBy := by
  unfold upload
  exact (Task.stopsAt_check _).bind fun _ =>
    (stopsAt_send s h .put _ [] _).bind fun _ => Task.stopsAt_pure _

theorem stopsAt_download (root path : String) :
    (s.download operation root path).StopsAt refusal? FailedBy := by
  unfold download
  exact (Task.stopsAt_check _).bind fun _ =>
    (stopsAt_send s h .get _ [] _).bind fun _ => Task.stopsAt_pure _

omit h in
theorem stopsAt_getRun (id : String) : (s.getRun id).StopsAt refusal? FailedBy :=
  stopsAt_call (by decide) .get _ _ _ _

omit h in
theorem stopsAt_artifactRootOf (operation id : String) :
    (s.artifactRootOf operation id).StopsAt refusal? FailedBy := by
  unfold artifactRootOf
  refine (stopsAt_getRun id).bind fun run => ?_
  cases run.artifactUri with
  | none => exact Task.stopsAt_fail _
  | some root => exact Task.stopsAt_pure _

omit h in
theorem stopsAt_logModel (runId : String) (model : LinearModel) :
    (s.logModel runId model).StopsAt refusal? FailedBy := by
  unfold logModel
  refine (stopsAt_getRun runId).bind fun run => ?_
  refine Task.StopsAt.bind (stopsAt_call (by decide) ..) fun created => ?_
  refine (stopsAt_upload (by decide) ..).bind fun _ => ?_
  exact (stopsAt_call (by decide) ..).bind fun _ => Task.stopsAt_pure _

omit h in
theorem stopsAt_loadModel (uri : String) : (s.loadModel uri).StopsAt refusal? FailedBy := by
  unfold loadModel
  refine (Task.stopsAt_check _).bind fun id => ?_
  refine (stopsAt_call (by decide) ..).bind fun found => ?_
  exact (stopsAt_download (by decide) ..).bind fun _ => Task.stopsAt_check _

omit h in
/-- **A refusal ends every operation.** -/
theorem stopsAt_perform (c : TrackingCall) : (s.perform c).StopsAt refusal? FailedBy := by
  cases c with
  | createExperiment | getExperiment | deleteExperiment | endRun | deleteRun | listArtifacts
  | getRegisteredModel | deleteRegisteredModel => exact stopsAt_call (by decide) ..
  | createRun | createRegisteredModel =>
    exact (stopsAt_call (by decide) ..).bind fun _ => Task.stopsAt_pure _
  | getRun id => exact stopsAt_getRun id
  | logArtifact =>
    exact (stopsAt_artifactRootOf ..).bind fun _ => stopsAt_upload (by decide) ..
  | downloadArtifact =>
    exact (stopsAt_artifactRootOf ..).bind fun _ => stopsAt_download (by decide) ..
  | logModel id model => exact stopsAt_logModel id model
  | loadModel uri => exact stopsAt_loadModel uri

omit h in
/-- **A run that meets a refusal** fails with the words of that reply. -/
theorem exec_of_mem_refusals {c : TrackingCall} {h : Handler wire σ} {w : σ} {status : Nat}
    {body : Bytes} (hrefused : (status, body) ∈ refusals ((s.perform c).dialogue h w)) :
    ∃ operation ∈ operationNames, ((s.perform c).exec h w).1 =
      .error (.error (.tracking operation status (failureText status (Text.lossy body)))) := by
  obtain ⟨x, hx, hv⟩ := List.mem_filterMap.mp hrefused
  obtain ⟨e, he, operation, hop, rfl⟩ := (stopsAt_perform c).exec_of_mem_dialogue hx hv
  exact ⟨operation, hop, he⟩

end Service

end GrantProbe
