import GrantProbe.Config
import GrantProbe.Error

/-!
# The address of the tracking service

* `CaBundle`: a file of trusted certificates and what came of reading it;
* `Endpoint.of`: the address that settings give, if it is usable.
-/

namespace GrantProbe

/-- **A file of trusted certificates,** and why it could not be read if it could not. -/
structure CaBundle where
  path : String
  failure : Option String
  deriving DecidableEq, Repr, Inhabited

/-- **A usable address:** it is not empty and does not end in a slash. -/
structure Endpoint where
  baseUrl : String
  deriving DecidableEq, Repr, Inhabited

/-- A text without the slashes at its end. -/
def trimSlashes (s : String) : String := String.ofList (Text.stripEnd (· == '/') s.toList)

/-- **The address that settings give.** -/
def Endpoint.of (baseUrl : String) (bundle : Option CaBundle) : Except Error Endpoint :=
  if (trimSlashes baseUrl).isEmpty then
    .error (.invalidField "tracking_uri" "tracking URI cannot be empty")
  else
    match bundle with
    | some ⟨path, some failure⟩ =>
      .error (.internal ("failed to read CA bundle " ++ path ++ ": " ++ failure) "tracking_client")
    | _ => .ok ⟨trimSlashes baseUrl⟩

end GrantProbe
