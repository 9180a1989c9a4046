import GrantProbe.Http.Message
import GrantProbe.Identity.Issue
import GrantProbe.Wire.Reply
import GrantProbe.Wire.Signature

/-!
# The cluster over the wire

Calls to the cluster's API server.

* `targetFailure?`: targets that cannot be sent;
* `exchange`: one request and what its reply means;
* `Wire.access`, `Wire.accounts`, `ensureWorkspace`: the calls.
-/

namespace GrantProbe

open Http (Method Request Reply)

/-! ## Requests -/

/-- A character that a target can hold before its question mark. -/
def inTargetPath (c : Char) : Bool :=
  let n := c.toNat
  n == 0x21 || n == 0x22 || (0x24 ≤ n && n ≤ 0x3B) || n == 0x3D || (0x40 ≤ n && n ≤ 0x5F) ||
    (0x61 ≤ n && n != 0x7F)

/-- A character that a target can hold after its question mark. -/
def inTargetQuery (c : Char) : Bool :=
  let n := c.toNat
  n == 0x21 || (0x24 ≤ n && n ≤ 0x3B) || n == 0x3D || (0x3F ≤ n && n != 0x7F)

/-- The greatest number of bytes of a target. -/
def maxTarget : Nat := 65534

/-- **Why a target cannot be sent,** if it cannot. -/
def targetFailure? (target : String) : Option String :=
  let (path, query) := Http.cutAt (· == '?') (Http.cutAt (· == '#') target.toList).1
  if maxTarget < target.utf8ByteSize then some "uri too long"
  else if path.all inTargetPath && (query.getD []).all inTargetQuery then none
  else some "invalid uri character"

/-- The request to a target. What follows a number sign is not sent. -/
def clusterRequest (method : Method) (target : String) (body : Json) :
    Except ClusterFailure Request :=
  match targetFailure? target with
  | some cause => .error (.malformed ("failed to build request: " ++ cause))
  | none =>
    .ok ⟨method, String.ofList (Http.cutAt (· == '#') target.toList).1,
      [("content-type", "application/json")], utf8Bytes body.compact⟩

/-- The name of an object that a request is about. -/
def checkName (name : String) : Except ClusterFailure Unit :=
  if name.isEmpty then
    .error (.malformed "failed to validate request: A non-empty name is required")
  else .ok ()

/-! ## Replies -/

/-- The refusal that a body tells of. -/
def refusalOf (status : Nat) (text : String) : StatusReply :=
  match StatusReply.shape.read (Json.Input.ofText text) with
  | .ok r => r
  | .error _ => ⟨Http.statusLine status, Text.quoted text, "Failed to parse error data", status⟩

/-- **What a reply means:** its text, or a failure. -/
def replyText : Reply → Except ClusterFailure String
  | .failed cause => .error (.unreachable cause)
  | .interrupted _ => .error (.unreachable "error reading a body from connection")
  | .response status body =>
    match Text.damage? body with
    | some cause => .error (.notText cause)
    | none =>
      let text := Text.lossy body
      if Http.isRefusal status then .error (.refused (refusalOf status text)) else .ok text

/-- **One exchange** with the cluster: a request, unless it cannot be sent, and the meaning of its reply. -/
def exchange {α : Type} (request : Except ClusterFailure Request)
    (read : String → Except ClusterFailure α) : Wire (Except ClusterFailure α) := do
  match request with
  | .error f => pure (.error f)
  | .ok r =>
    let reply ← Wire.cluster r
    pure (replyText reply >>= read)

/-- The result of an exchange, as a task. -/
def orFail {α : Type} (t : Wire (Except ClusterFailure α)) : Wire α := do
  match ← t with
  | .ok a => pure a
  | .error f => Task.fail (.cluster f)

/-- Creates an object; one that is there already is no failure. -/
def createObject (reply : Json.Reader Unit) (target : String) (body : Json) : Wire Creation := do
  match ← exchange (clusterRequest .post target body) (readReply reply) with
  | .ok _ => pure .created
  | .error f => if f.isConflict then pure .existed else Task.fail (.cluster f)

/-- Deletes an object; one that is missing is no failure. -/
def deleteObject (reply : Json.Reader Unit) (collection name : String) : Wire Unit := do
  let request := do
    checkName name
    clusterRequest .delete (collection ++ "/" ++ name) (.object [])
  match ← exchange request (readDeleted reply) with
  | .ok () => pure ()
  | .error f => if f.isNotFound then pure () else Task.fail (.cluster f)

/-! ## Calls -/

/-- The place of the objects of a kind in a scope. -/
def collectionIn (api scope plural : String) : String :=
  "/" ++ api ++ "/namespaces/" ++ scope ++ "/" ++ plural

def rolesIn (scope : String) : String := collectionIn ("apis/" ++ rbacGroup ++ "/v1") scope "roles"

def bindingsIn (scope : String) : String :=
  collectionIn ("apis/" ++ rbacGroup ++ "/v1") scope "rolebindings"

def accountsIn (scope : String) : String := collectionIn "api/v1" scope "serviceaccounts"

/-- The place of reviews. -/
def reviewsPath : String := "/apis/authorization.k8s.io/v1/subjectaccessreviews"

/-- Asks for a review. -/
def askReview (q : Review) : Wire Decision := do
  match ← orFail (exchange (clusterRequest .post reviewsPath (reviewObject q))
    (readReply Reply.review)) with
  | some d => pure d
  | none => Task.fail (.internal "access review returned no status" "query_decision")

/-- Asks for a token. -/
def askToken (name scope : String) : Wire String := do
  let request := do
    checkName name
    clusterRequest .post (accountsIn scope ++ "/" ++ name ++ "/token") tokenObject
  match ← orFail (exchange request (readReply Reply.token)) with
  | none => Task.fail (.identity name scope "token response missing status")
  | some token =>
    if token.isEmpty then Task.fail (.identity name scope "server returned empty token")
    else pure token

/-- **Calls for access,** over the wire. -/
def Wire.access : AccessControl wire
  | .createRole scope role rules =>
    createObject Reply.role (rolesIn scope) (roleObject scope role rules)
  | .createBinding scope binding role identity =>
    createObject Reply.binding (bindingsIn scope) (bindingObject scope binding role identity)
  | .deleteRole scope role => deleteObject Reply.role (rolesIn scope) role
  | .deleteBinding scope binding => deleteObject Reply.binding (bindingsIn scope) binding
  | .review q => askReview q

/-- **Calls for service accounts,** over the wire. -/
def Wire.accounts : Accounts wire Duration where
  call
    | .create name scope =>
      createObject Reply.account (accountsIn scope) (accountObject name scope)
    | .requestToken name scope => askToken name scope
    | .delete name scope => deleteObject Reply.account (accountsIn scope) name
  pace := RetryConfig.tokenRequest.pace .clock Wire.sleep Wire.factor

/-- **Makes sure that a workspace exists.** -/
def ensureWorkspace (name : String) : Wire Unit := do
  let request := do
    checkName name
    clusterRequest .patch ("/api/v1/namespaces/" ++ name ++ "?fieldManager=" ++ managedBy.2)
      (workspaceObject name)
  orFail (exchange request (readReply Reply.workspace))

end GrantProbe
