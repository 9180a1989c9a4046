import GrantProbe.Error
import GrantProbe.Text.Blank
import GrantProbe.Text.Search
import GrantProbe.Tracking.Call

/-!
# Addresses at the tracking service

* `apiAddress`: an operation;
* `proxiedRoot`, `artifactAddress`: an artifact below its root, which the service has to serve itself;
* `modelId`: the id in the URI of a logged model.
-/

namespace GrantProbe

/-- The path of the operations. -/
def apiPath : String := "api/2.0/mlflow"

/-- The path of the artifacts. -/
def artifactsPath : String := "api/2.0/mlflow-artifacts/artifacts"

/-- **The address of an operation.** -/
def apiAddress (base path : String) : String := base ++ "/" ++ apiPath ++ "/" ++ path

/-- What follows the host of an address whose scheme and slashes have been removed. -/
def afterHost (cs : List Char) : List Char := (cs.dropWhile (· ≠ '/')).drop 1

/-- A list of characters without the slashes at either end. -/
def withoutSlashes (cs : List Char) : List Char := Text.stripBoth (· == '/') cs

/-- **The path of an artifact root** below that of the artifacts, if the service serves it. -/
def proxiedRoot (uri : String) : Except Error String :=
  match Text.stripStart? proxiedScheme uri with
  | none =>
    .error (.invalidInput ("artifact root " ++ uri ++
      " is not served through the tracking service"))
  | some rest =>
    match Text.dropStart? ['/', '/'] rest.toList with
    | some withHost => .ok (String.ofList (withoutSlashes (afterHost withHost)))
    | none => .ok (String.ofList (withoutSlashes rest.toList))

/-- **The address of an artifact** below a root. -/
def artifactAddress (base root path : String) : String :=
  let path := String.ofList (path.toList.dropWhile (· == '/'))
  if root.isEmpty then base ++ "/" ++ artifactsPath ++ "/" ++ path
  else base ++ "/" ++ artifactsPath ++ "/" ++ root ++ "/" ++ path

/-- **The id of a logged model:** what follows the scheme of its URI, without slashes. -/
def modelId (uri : String) : Except Error String :=
  match Text.stripStart? modelScheme uri with
  | some id =>
    if id.isEmpty || id.toList.contains '/' then
      .error (.invalidInput (uri ++ " is not a logged model URI"))
    else .ok id
  | none => .error (.invalidInput (uri ++ " is not a logged model URI"))

end GrantProbe
