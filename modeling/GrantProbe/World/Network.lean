import GrantProbe.Json.Document
import GrantProbe.Json.Fields
import GrantProbe.Wire.Signature

/-!
# A scripted network

A network on which only the cluster can be reached, and it answers from a script. Time passes only while
something sleeps.

* `Http.Reply.ofDocument`, `Http.Request.document`: replies and requests as documents;
* `Network`, with `Network.answer`: the answer to everything that crosses the wire.
-/

namespace GrantProbe

/-- The reply of a description: a cause of failure, or a status with a body. -/
def Http.Reply.ofDocument (j : Json) : Http.Reply :=
  match j.textAt? "fail" with
  | some cause => .failed cause
  | none =>
    let body :=
      match j.get? "json" with
      | some v => utf8Bytes v.compact
      | none => ((j.field? "body").map Json.bytes).getD []
    .response ((j.natAt? "status").getD 200) body

/-- A body: nothing, an object, or bytes. -/
def Http.bodyDocument (body : Bytes) : Json :=
  match body, (Text.decodeUtf8? body).map Json.parse with
  | [], _ => .null
  | _, some (.ok (.object entries)) => .object [("json", .object entries)]
  | _, _ => .ofBytes body

/-- A request as JSON. -/
def Http.Request.document (r : Http.Request) : Json := .object [
  ("method", .text r.method.text), ("path", .text r.target), ("body", Http.bodyDocument r.body)]

/-- **A network:** the replies that the cluster has left, the requests it has received, the clock in
milliseconds, and what comes of setting up a connection. -/
structure Network where
  replies : List Http.Reply
  requests : List Http.Request
  now : Nat
  connection : Option String → Except ConnectionFailure Unit

namespace Network

/-- A network with the replies of a description. -/
def ofReplies (replies : List Json) : Network :=
  ⟨replies.map Http.Reply.ofDocument, [], 0, fun _ => .ok ()⟩

/-- A network on which nothing can be reached, given what comes of reading a file of settings. -/
def unreachable (connection : Option String → Except ConnectionFailure Unit) : Network :=
  ⟨[], [], 0, connection⟩

/-- The network with its requests forgotten. -/
def forgetRequests (n : Network) : Network := { n with requests := [] }

/-- **The answer to what crosses the wire.** When the cluster has no reply left, it fails. -/
def answer (exhausted : String) : Program.Handler wire Network := fun request n =>
  match request with
  | .connect file => (n.connection file, n)
  | .cluster r =>
    (n.replies.headD (.failed exhausted),
      { n with replies := n.replies.tail, requests := n.requests ++ [r] })
  | .tracking .. => (.failed "no route to the tracking service", n)
  | .certificates path => (⟨path, some "No such file or directory (os error 2)"⟩, n)
  | .sleep d => ((), { n with now := n.now + d.millisToEnd })
  | .suffix => (toString n.now, n)
  | .factor => ((1.0 : Float), n)
  | .clock => (.ofMillis n.now, n)

end Network

end GrantProbe
