import GrantProbe.Proofs.Execution
import GrantProbe.Proofs.Tracking.Refused

/-!
# What stands in front of a failure of the tracking service

An error of the tracking service says in front of its text which operation failed and with what status.
None of this counts when the error is classified: it has no word of the table, no word reaches from it
into the text, and so it pairs with no word of the text either.

* `Task.FailsWith`: a property of every error that a task can end in, with a lemma for each way to build a
  task;
* `Service.failsWith_perform`: the operations that errors of a client name;
* `Service.heading_is_transparent`: for each of them, every status and every text.
-/

namespace GrantProbe

open Program (Handler)

variable {S : Signature} {α β : Type}

/-! ## Errors of a task -/

namespace Task

/-- **The errors of a task** all satisfy `P`, in every one of its runs. -/
def FailsWith (P : Error → Prop) (t : Task S α) : Prop :=
  ∀ ⦃σ : Type⦄ (h : Handler S σ) (w w' : σ) (e : Error), t.exec h w = (.error (.error e), w') → P e

variable {P : Error → Prop}

theorem failsWith_pure (a : α) : FailsWith P (pure a : Task S α) := by
  intro σ h w w' e hfail
  cases hfail

theorem failsWith_fail {e : Error} (he : P e) : FailsWith P (fail e : Task S α) := by
  intro σ h w w' e' hfail
  cases hfail
  exact he

theorem failsWith_check {r : Except Error α} (hr : ∀ e, r = .error e → P e) :
    FailsWith P (check r : Task S α) := by
  cases r with
  | error e => exact failsWith_fail (hr e rfl)
  | ok a => exact failsWith_pure a

theorem failsWith_always (p : Program S α) : FailsWith P (always p : Task S α) := by
  intro σ h w w' e hfail
  rw [exec_always] at hfail
  cases hfail

theorem FailsWith.bind {t : Task S α} {k : α → Task S β} (ht : t.FailsWith P)
    (hk : ∀ a, (k a).FailsWith P) : (t >>= k).FailsWith P := by
  intro σ h w w' e hfail
  rcases exec_bind_eq_error hfail with hfirst | ⟨a, w₁, -, hsecond⟩
  · exact ht h w w' e hfirst
  · exact hk a h w₁ w' e hsecond

end Task

/-! ## Errors of a client -/

/-- An error of the tracking service names one of its operations. -/
def Error.NamesOperation : Error → Prop
  | .tracking operation _ _ => operation ∈ operationNames
  | _ => True

theorem namesOperation_proxiedRoot {uri : String} {e : Error} (h : proxiedRoot uri = .error e) :
    e.NamesOperation := by
  unfold proxiedRoot at h
  split at h
  · cases h
    trivial
  · split at h <;> cases h

theorem namesOperation_modelId {uri : String} {e : Error} (h : modelId uri = .error e) :
    e.NamesOperation := by
  unfold modelId at h
  split at h
  · split at h <;> cases h
    trivial
  · cases h
    trivial

theorem namesOperation_load {bytes : Bytes} {e : Error} (h : LinearModel.load bytes = .error e) :
    e.NamesOperation := by
  unfold LinearModel.load at h
  split at h <;> cases h
  trivial

namespace Service

section
variable {s : Service} {operation : String} (h : operation ∈ operationNames)
include h

theorem namesOperation_replyBody {url : Http.Url} {reply : Http.Reply} {e : Error}
    (he : replyBody operation url reply = .error e) : e.NamesOperation := by
  unfold replyBody at he
  split at he
  · cases he
    exact h
  · cases he
    exact h
  · split at he <;> cases he
    exact h

theorem namesOperation_decode {r : Json.Reader α} {status : Nat} {body : Bytes} {e : Error}
    (he : decode operation r status body = .error e) : e.NamesOperation := by
  simp only [decode] at he
  split at he <;> cases he
  exact h

theorem failsWith_send (method : Http.Method) (address : String) (query : List (String × String))
    (content : Content) :
    (s.send operation method address query content).FailsWith Error.NamesOperation := by
  unfold send
  cases s.goal address query with
  | error cause => exact Task.failsWith_fail h
  | ok url =>
    exact (Task.failsWith_always _).bind fun _ =>
      Task.failsWith_check fun _ => namesOperation_replyBody h

theorem failsWith_call (method : Http.Method) (path : String) (query : List (String × String))
    (content : Content) (r : Json.Reader α) :
    (s.call operation method path query content r).FailsWith Error.NamesOperation := by
  unfold call
  exact (failsWith_send h ..).bind fun _ => Task.failsWith_check fun _ => namesOperation_decode h

theorem failsWith_upload (root path : String) (content : Bytes) :
    (s.upload operation root path content).FailsWith Error.NamesOperation := by
  unfold upload
  exact (Task.failsWith_check fun _ => namesOperation_proxiedRoot).bind fun _ =>
    (failsWith_send h ..).bind fun _ => Task.failsWith_pure _

theorem failsWith_download (root path : String) :
    (s.download operation root path).FailsWith Error.NamesOperation := by
  unfold download
  exact (Task.failsWith_check fun _ => namesOperation_proxiedRoot).bind fun _ =>
    (failsWith_send h ..).bind fun _ => Task.failsWith_pure _

theorem failsWith_artifactRootOf (id : String) :
    (s.artifactRootOf operation id).FailsWith Error.NamesOperation := by
  unfold artifactRootOf getRun lookUp
  refine Task.FailsWith.bind (failsWith_call (by decide) ..) fun run => ?_
  cases run.artifactUri with
  | none => exact Task.failsWith_fail h
  | some root => exact Task.failsWith_pure root

end

variable (s : Service)

theorem failsWith_logModel (runId : String) (model : LinearModel) :
    (s.logModel runId model).FailsWith Error.NamesOperation := by
  have hname : "log_model" ∈ operationNames := by decide
  unfold logModel getRun lookUp
  refine Task.FailsWith.bind (failsWith_call (by decide) ..) fun run => ?_
  refine Task.FailsWith.bind (failsWith_call hname ..) fun created => ?_
  refine Task.FailsWith.bind (failsWith_upload hname ..) fun _ => ?_
  exact Task.FailsWith.bind (failsWith_call hname ..) fun _ => Task.failsWith_pure _

theorem failsWith_loadModel (uri : String) : (s.loadModel uri).FailsWith Error.NamesOperation := by
  unfold loadModel
  refine (Task.failsWith_check fun _ => namesOperation_modelId).bind fun id => ?_
  refine Task.FailsWith.bind (failsWith_call (by decide) ..) fun found => ?_
  refine Task.FailsWith.bind (failsWith_download (by decide) ..) fun stored => ?_
  exact Task.failsWith_check fun _ => namesOperation_load

/-- **The operations that errors of a client name** are those that are listed. -/
theorem failsWith_perform (c : TrackingCall) : (s.perform c).FailsWith Error.NamesOperation := by
  cases c with
  | createExperiment | getExperiment | deleteExperiment | getRun | endRun | deleteRun | listArtifacts
  | getRegisteredModel | deleteRegisteredModel => exact failsWith_call (by decide) ..
  | createRun | createRegisteredModel =>
    exact Task.FailsWith.bind (failsWith_call (by decide) ..) fun _ => Task.failsWith_pure _
  | logArtifact =>
    exact (failsWith_artifactRootOf (by decide) _).bind fun _ => failsWith_upload (by decide) ..
  | downloadArtifact =>
    exact (failsWith_artifactRootOf (by decide) _).bind fun _ => failsWith_download (by decide) ..
  | logModel id model => exact failsWith_logModel s id model
  | loadModel uri => exact failsWith_loadModel s uri

/-- **What an error says in front of its text counts for nothing.** For each operation that errors of a
client name, every status and every text, the error is classified as its text alone. No word of the table
is in the part in front, and the error says a word exactly if its text does, so none is put together of
both. The operations are those of the list, whatever call is made and whatever is replied. -/
theorem heading_is_transparent :
    (∀ operation ∈ operationNames, ∀ status message,
      FailureCode.ofMessage (Error.tracking operation status message).message =
        FailureCode.ofMessage message ∧
      ∀ word ∈ tableWords, Text.mentions (trackingHeading operation status ++ ": ") word = false ∧
        Text.mentions (Error.tracking operation status message).message word =
          Text.mentions message word) ∧
    ∀ (s : Service) (c : TrackingCall) {σ : Type} (h : Handler wire σ) (w : σ) operation status message,
      ((s.perform c).exec h w).1 = .error (.error (.tracking operation status message)) →
        operation ∈ operationNames := by
  refine ⟨fun operation hop status message => ⟨ofMessage_tracking hop status message, ?_⟩, ?_⟩
  · intro word hword
    have hheading := mentions_trackingHeading hop status hword
    have hempty : Text.mentions "" word = false := by
      have hne : word.toList ≠ [] := (not_colon_of_mem_tableWords hword).2.2
      have hnil : Text.mentions "" word = word.toList.isEmpty := rfl
      rw [hnil, List.isEmpty_eq_false_iff]
      exact hne
    constructor
    · -- The heading with its colon is a text in two parts, and the second has no words.
      have hsplit := mentions_append_colon hword (trackingHeading operation status) ""
      rwa [hheading, hempty, String.append_empty] at hsplit
    · rw [message_tracking, mentions_append_colon hword, hheading, Bool.false_or]
  · intro s c σ h w operation status message herr
    exact failsWith_perform s c h w _ _ (Prod.ext herr rfl)

/-- A reply that says both words of one row, each of them in another letter case. -/
def noAccessReply : Bytes := utf8Bytes "No ACCESS to this Workspace"

/-- Reading a run whose workspace is closed: the part in front says nothing of a workspace, and the error
is of the kind that the reply makes it. -/
theorem heading_of_noAccess :
    ((sampleService.perform (.getRun "1")).exec (everyReply (.response 400 noAccessReply)) ()).1 =
        .error (.error (.tracking "get_run" 400 "Bad Request: No ACCESS to this Workspace")) ∧
      "get_run" ∈ operationNames ∧ "workspace" ∈ tableWords ∧
      Text.mentions (trackingHeading "get_run" 400 ++ ": ") "workspace" = false ∧
      FailureCode.ofMessage
          (Error.tracking "get_run" 400 "Bad Request: No ACCESS to this Workspace").message =
        .workspaceAccessDenied := by
  have herr : ((sampleService.perform (.getRun "1")).exec
      (everyReply (.response 400 noAccessReply)) ()).1 =
        .error (.error (.tracking "get_run" 400 "Bad Request: No ACCESS to this Workspace")) := by
    decide +kernel
  have hword : "workspace" ∈ tableWords := by decide
  have hop : "get_run" ∈ operationNames :=
    heading_is_transparent.2 sampleService (.getRun "1") (everyReply (.response 400 noAccessReply)) ()
      _ _ _ herr
  obtain ⟨hcode, hwords⟩ := heading_is_transparent.1 "get_run" hop 400
    "Bad Request: No ACCESS to this Workspace"
  have hmessage : FailureCode.ofMessage "Bad Request: No ACCESS to this Workspace" =
      .workspaceAccessDenied := by decide +kernel
  exact ⟨herr, hop, hword, (hwords "workspace" hword).1, hcode.trans hmessage⟩

end Service

end GrantProbe
