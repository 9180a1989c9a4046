import GrantProbe.Http.Status
import GrantProbe.Text.Utf8

/-!
# Requests and replies

* `Method`, `Request`: what is sent;
* `Reply`: what comes of it;
* `isHeaderValue`: what a header can hold.
-/

namespace GrantProbe.Http

/-- The methods in use. -/
inductive Method where
  | get | post | put | patch | delete
  deriving DecidableEq, Repr, Inhabited

def Method.text : Method → String
  | get => "GET"
  | post => "POST"
  | put => "PUT"
  | patch => "PATCH"
  | delete => "DELETE"

/-- **A request.** The target is a path with a query. -/
structure Request where
  method : Method
  target : String
  headers : List (String × String)
  body : Bytes
  deriving DecidableEq, Repr, Inhabited

/-- **What comes of a request.** -/
inductive Reply where
  /-- A response was received. -/
  | response (status : Nat) (body : Bytes)
  /-- A response began, but its body did not arrive. -/
  | interrupted (status : Nat)
  /-- There was no response. -/
  | failed (cause : String)
  deriving DecidableEq, Repr, Inhabited

/-- The cause when nothing listens. -/
def connectFailure : String := "client error (Connect)"

/-- A header can hold the text: it has no control characters but tabs. -/
def isHeaderValue (s : String) : Bool :=
  s.toList.all fun c => c == '\t' || (0x20 ≤ c.toNat && c.toNat ≠ 0x7F)

end GrantProbe.Http
