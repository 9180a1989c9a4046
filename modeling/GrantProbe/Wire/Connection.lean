import GrantProbe.Environment
import GrantProbe.Text.Quoted

/-!
# Connecting to the cluster

A connection needs settings, which are in a file that is named, or else in the default file, or else in the
surroundings of a program that runs inside the cluster.

* `defaultSettingsPath?`, `settingsPath?`: the file that is looked at;
* `ConnectionFailure`, with `ConnectionFailure.message`: why there is no connection;
* `connection`: what comes of looking at the file.
-/

namespace GrantProbe

/-- **Why no connection can be set up.** -/
inductive ConnectionFailure where
  /-- The named file cannot be read. -/
  | unreadable (path cause : String)
  /-- No file is named, and neither the default file nor the surroundings have settings. -/
  | nothingImplied (inside file : String)
  deriving DecidableEq, Repr, Inhabited

/-- The words for a file that cannot be read. -/
def unreadableText (path cause : String) : String :=
  "failed to read kubeconfig from '" ++ Text.quotedPath path ++ "': " ++ cause

/-- **The words for a failure.** -/
def ConnectionFailure.message : ConnectionFailure → String
  | unreadable path cause =>
    "failed to read kubeconfig " ++ path ++ ": " ++ unreadableText path cause
  | nothingImplied inside file =>
    "failed to infer config: failed to infer config: in-cluster: (" ++ inside ++ "), kubeconfig: (" ++
      file ++ ")"

/-- A path below a folder. -/
def joinPath (folder path : String) : String :=
  if folder.isEmpty || folder.toList.getLast? == some '/' then folder ++ path else folder ++ "/" ++ path

/-- The default file, below the user's own folder. -/
def defaultSettingsPath? (env : Environment) : Option String :=
  (env "HOME").map fun home => joinPath home ".kube/config"

/-- The file that is looked at. -/
def settingsPath? (env : Environment) (named : Option String) : Option String :=
  named <|> defaultSettingsPath? env

/-- Why the surroundings have no settings: a program inside the cluster is told of its address. -/
def outsideText : String :=
  "failed to read an incluster environment variable: environment variable not found"

/-- **What comes of looking at the file,** given why it cannot be read if it cannot. -/
def connection (env : Environment) (unread : String → Option String) :
    Option String → Except ConnectionFailure Unit
  | some path =>
    match unread path with
    | some cause => .error (.unreadable path cause)
    | none => .ok ()
  | none =>
    match defaultSettingsPath? env with
    | none => .error (.nothingImplied outsideText "failed to find the path of kubeconfig")
    | some path =>
      match unread path with
      | some cause => .error (.nothingImplied outsideText (unreadableText path cause))
      | none => .ok ()

theorem connection_named_eq_ok_iff {env : Environment} {unread : String → Option String} {path : String} :
    connection env unread (some path) = .ok () ↔ unread path = none := by
  unfold connection
  cases h : unread path <;> simp [h]

end GrantProbe
