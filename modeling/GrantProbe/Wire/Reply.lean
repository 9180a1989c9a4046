import GrantProbe.Access.Call
import GrantProbe.Json.Document
import GrantProbe.Json.Fields
import GrantProbe.Json.Member
import GrantProbe.Json.Record
import GrantProbe.Wire.Object

/-!
# Replies of the cluster

What is read of the objects that the cluster sends back. Every member that an object is known to have
must be of its kind, also where nothing asks for its value.

* `roleReply`, `bindingReply`, `accountReply`, `workspaceReply`: objects that are only looked at;
* `reviewReply`, `tokenReply`: the decision and the token that an object carries;
* `readReply`, `readDeleted`: the text of a reply; `StatusReply.shape`: refusals.
-/

namespace GrantProbe

open Json (Reader Member Field RecordShape required)
open Json.Reader (outline text flag list mapping moment wholeOf)

namespace Reply

/-! ## Heads of objects -/

/-- Members that are texts. -/
def textMembers (names : List String) : List (Member Unit) :=
  names.map fun name => .checked name text

/-- How deep the values of fields that somebody manages are nested in an object. -/
def managedDepth : Nat := 4

/-- A change to an object and who made it. -/
def managedFields : Reader Unit :=
  outline "ManagedFieldsEntry" (
    textMembers ["apiVersion", "fieldsType", "manager", "operation", "subresource"] ++ [
    .checked "fieldsV1" (Reader.value (Reader.maxDepth - managedDepth)),
    .checked "time" moment])

/-- An object that another one belongs to. -/
def ownerReference : Reader Unit :=
  outline "OwnerReference" (textMembers ["apiVersion", "kind", "name", "uid"] ++ [
    .checked "blockOwnerDeletion" flag,
    .checked "controller" flag])

/-- **The head of an object.** -/
def head : Reader Unit :=
  outline "ObjectMeta" (
    textMembers ["generateName", "name", "namespace", "resourceVersion", "selfLink", "uid"] ++ [
    .checked "annotations" (mapping text),
    .checked "creationTimestamp" moment,
    .checked "deletionGracePeriodSeconds" (wholeOf .i64),
    .checked "deletionTimestamp" moment,
    .checked "finalizers" (list text),
    .checked "generation" (wholeOf .i64),
    .checked "labels" (mapping text),
    .checked "managedFields" (list managedFields),
    .checked "ownerReferences" (list ownerReference)])

/-- **An object of a kind,** which says of itself what it is, if it says anything. -/
def ofKind {σ : Type} (kind : ObjectKind) (members : List (Member σ)) (blank : σ) : Reader σ :=
  Reader.object kind.name ([
    .exactly "apiVersion" kind.version,
    .exactly "kind" kind.name,
    .checked "metadata" head] ++ members) blank

/-! ## Roles and bindings -/

def rule : Reader Unit :=
  outline "PolicyRule" (
    ["apiGroups", "nonResourceURLs", "resourceNames", "resources", "verbs"].map fun name =>
      .checked name (list text))

/-- **A role.** -/
def role : Reader Unit := ofKind ObjectKind.role [.checked "rules" (list rule)] ()

def roleRef : Reader Unit := outline "RoleRef" (textMembers ["apiGroup", "kind", "name"])

def subject : Reader Unit :=
  outline "Subject" (textMembers ["apiGroup", "kind", "name", "namespace"])

/-- **A binding.** -/
def binding : Reader Unit :=
  ofKind ObjectKind.binding [.checked "roleRef" roleRef, .checked "subjects" (list subject)] ()

/-! ## Workspaces and accounts -/

def workspaceSpec : Reader Unit := outline "NamespaceSpec" [.checked "finalizers" (list text)]

def condition : Reader Unit :=
  outline "NamespaceCondition" (textMembers ["message", "reason", "status", "type"] ++ [
    .checked "lastTransitionTime" moment])

def workspaceStatus : Reader Unit :=
  outline "NamespaceStatus" (textMembers ["phase"] ++ [.checked "conditions" (list condition)])

/-- **A workspace.** -/
def workspace : Reader Unit :=
  ofKind ObjectKind.workspace [.checked "spec" workspaceSpec, .checked "status" workspaceStatus] ()

def localReference : Reader Unit := outline "LocalObjectReference" (textMembers ["name"])

def reference : Reader Unit :=
  outline "ObjectReference"
    (textMembers ["apiVersion", "fieldPath", "kind", "name", "namespace", "resourceVersion", "uid"])

/-- **A service account.** -/
def account : Reader Unit :=
  ofKind ObjectKind.account [
    .checked "automountServiceAccountToken" flag,
    .checked "imagePullSecrets" (list localReference),
    .checked "secrets" (list reference)] ()

/-! ## Reviews -/

/-- A condition on labels or fields. -/
def requirement (title : String) : Reader Unit :=
  outline title (textMembers ["key", "operator"] ++ [.checked "values" (list text)])

/-- A choice of objects by labels or fields. -/
def selector (title item : String) : Reader Unit :=
  outline title (textMembers ["rawSelector"] ++ [.checked "requirements" (list (requirement item))])

def resourceAttributes : Reader Unit :=
  outline "ResourceAttributes" (
    textMembers ["group", "name", "namespace", "resource", "subresource", "verb", "version"] ++ [
    .checked "fieldSelector" (selector "FieldSelectorAttributes" "FieldSelectorRequirement"),
    .checked "labelSelector" (selector "LabelSelectorAttributes" "LabelSelectorRequirement")])

def otherAttributes : Reader Unit := outline "NonResourceAttributes" (textMembers ["path", "verb"])

def reviewSpec : Reader Unit :=
  outline "SubjectAccessReviewSpec" (textMembers ["uid", "user"] ++ [
    .checked "extra" (mapping (list text)),
    .checked "groups" (list text),
    .checked "nonResourceAttributes" otherAttributes,
    .checked "resourceAttributes" resourceAttributes])

/-- The outcome of a review. -/
structure Outcome where
  allowed : Bool
  reason : Option String

/-- The decision that an outcome stands for. A blank reason is none. -/
def Outcome.decision (o : Outcome) : Decision :=
  if o.allowed then .allowed else .denied (o.reason.filter (! ·.isEmpty))

def outcome : Reader Outcome :=
  Reader.object "SubjectAccessReviewStatus" [
    .kept "allowed" flag (fun o b => { o with allowed := b.getD false }),
    .checked "denied" flag,
    .checked "evaluationError" text,
    .kept "reason" text (fun o r => { o with reason := r })] ⟨false, none⟩

/-- **A review,** with its decision if it has one. -/
def review : Reader (Option Decision) :=
  ofKind ObjectKind.review [
    .checked "spec" reviewSpec,
    .kept "status" outcome (fun _ o => o.map Outcome.decision)] none

/-! ## Tokens -/

def boundReference : Reader Unit :=
  outline "BoundObjectReference" (textMembers ["apiVersion", "kind", "name", "uid"])

def tokenSpec : Reader Unit :=
  outline "TokenRequestSpec" [
    .checked "audiences" (list text),
    .checked "boundObjectRef" boundReference,
    .checked "expirationSeconds" (wholeOf .i64)]

/-- What has been read of a token. -/
structure IssuedDraft where
  token : String
  expiry : Option Timestamp

/-- A token that was issued; it has to expire. -/
def issued : Reader String := do
  let draft ← Reader.object "TokenRequestStatus" [
    .needed "expirationTimestamp" moment (fun d t => { d with expiry := some t }),
    .kept "token" text (fun d t => { d with token := t.getD "" })] (⟨"", none⟩ : IssuedDraft)
  let _ ← Reader.check (required "expirationTimestamp" draft.expiry)
  pure draft.token

/-- **A request for a token,** with the token if it was issued. -/
def token : Reader (Option String) :=
  ofKind ObjectKind.token [
    .checked "spec" tokenSpec,
    .kept "status" issued (fun _ t => t)] none

/-! ## Reports -/

/-- What a report can say. -/
def reportStatus : Reader Unit := Reader.variant [("Success", ()), ("Failure", ())]

def cause : RecordShape (List String) Unit :=
  .outline "StatusCause" [.noted "reason" text, .noted "message" text, .noted "field" text]

def details : RecordShape (List String) Unit :=
  .outline "StatusDetails" [
    .noted "name" text, .noted "group" text, .noted "kind" text, .noted "uid" text,
    .noted "causes" (list cause.reader),
    .noted "retryAfterSeconds" (wholeOf .u32)]

/-- **A report** in the place of an object. -/
def report : RecordShape (List String) Unit :=
  .outline "Status" [
    .noted "status" (Reader.option reportStatus),
    .noted "code" (wholeOf .u16),
    .noted "message" text,
    .noted "reason" text,
    .noted "details" (Reader.option details.reader)]

end Reply

/-! ## Texts of replies -/

/-- The text of a reply, as far as it can be read. -/
def readReply {α : Type} (reader : Reader α) (body : String) : Except ClusterFailure α :=
  match Reader.whole reader (Json.Input.ofText body) with
  | .ok a => .ok a
  | .error e => .error (.unreadable e.message)

/-- What comes back from a deletion: the object, or a report. -/
def readDeleted (reader : Reader Unit) (body : String) : Except ClusterFailure Unit := do
  let j ← readReply (Reader.value Reader.maxDepth) body
  readReply (if j.textAt? "kind" = some "Status" then Reply.report.reader else reader) body

/-! ## Refusals -/

/-- What has been read of a refusal. -/
structure StatusReply.Draft where
  status : Option String
  message : Option String
  reason : Option String
  code : Option Int

/-- **Refusals** as they are read. -/
def StatusReply.shape : RecordShape StatusReply.Draft StatusReply where
  name := "ErrorResponse"
  fields := [
    .of "status" false Draft.status (fun d v => { d with status := some v }) text,
    .of "message" true Draft.message (fun d v => { d with message := some v }) text,
    .of "reason" true Draft.reason (fun d v => { d with reason := some v }) text,
    .of "code" false Draft.code (fun d v => { d with code := some v }) (wholeOf .u16)]
  blank := ⟨none, none, none, none⟩
  finish d := do
    let status ← required "status" d.status
    let code ← required "code" d.code
    return ⟨status, d.message.getD "", d.reason.getD "", code.toNat⟩

end GrantProbe
