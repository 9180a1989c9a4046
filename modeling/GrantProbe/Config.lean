import GrantProbe.Access.Verification
import GrantProbe.Text.Search

/-!
# Configuration

* `TrackingSettings`, `Config`: the settings of a run, with `Config.new` for the defaults;
* `Config.validate`: whether they suffice for a run;
* `parseWorkspaces`: a list of workspaces in one text;
* `LogFormat`: the two formats of the log.
-/

namespace GrantProbe

/-- **How to reach the tracking service.** -/
structure TrackingSettings where
  baseUrl : String
  insecureTls : Bool
  caBundle : Option String
  timeout : Duration

/-- Settings with the default timeout and default transport security. -/
def TrackingSettings.new (baseUrl : String) : TrackingSettings :=
  ⟨baseUrl, false, none, .ofSeconds 30⟩

/-- **A list of workspaces** between commas. Blanks around a name are dropped, and so are empty names and
repetitions. -/
def parseWorkspaces (raw : String) : List String :=
  (((Text.pieces ',' raw).map Text.trim).filter (! ·.isEmpty)).eraseDups

/-- The workspaces of a run unless others are given. -/
def defaultWorkspaces : String := "workspace1,workspace2"

/-- What generated identity names begin with unless something else is given. -/
def defaultNamePrefix : String := "test-user"

/-- **The settings of a run.** The first workspace is the primary one. -/
structure Config where
  tracking : TrackingSettings
  workspaces : List String
  adminToken : Option String
  kubeconfig : Option String
  verifier : VerifierConfig
  namePrefix : String

namespace Config

/-- The defaults for everything but the tracking service. -/
def new (baseUrl : String) : Config :=
  ⟨.new baseUrl, parseWorkspaces defaultWorkspaces, none, none, .standard, defaultNamePrefix⟩

/-- **Validation.** What a run cannot do without: an address, a workspace, an administrative token and an
API group. The first that is missing is reported. -/
def validate (c : Config) : Except Error Unit :=
  if Text.isAllBlank c.tracking.baseUrl then
    .error (.invalidField "tracking_uri" "tracking URI is required")
  else if c.workspaces.isEmpty then
    .error (.invalidField "workspaces" "at least one workspace is required")
  else if (c.adminToken.getD "").isEmpty then
    .error (.invalidField "admin_token"
      "an administrative token is required to seed and clean up resources")
  else if c.verifier.groups.isEmpty then
    .error (.invalidField "qualifiers" "at least one API group qualifier is required")
  else .ok ()

end Config

/-- **The format of the log.** -/
inductive LogFormat where
  | text | json
  deriving DecidableEq, Repr, Inhabited

namespace LogFormat

def name : LogFormat → String
  | text => "text"
  | json => "json"

/-- Reads a format, letter case aside. -/
def ofText (s : String) : Except String LogFormat :=
  let lowered := Text.asciiLower s
  if lowered = "text" ∨ lowered = "pretty" then .ok text
  else if lowered = "json" then .ok json
  else .error ("unknown log format '" ++ lowered ++ "', expected text or json")

end LogFormat

end GrantProbe
