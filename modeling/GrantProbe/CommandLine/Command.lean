import GrantProbe.Access.Capability
import GrantProbe.CommandLine.Grammar

/-!
# Commands

* `RulesRequest`, `RunRequest`, `VerifyRequest`: what each command is told;
* `rulesOptions`, `runOptions`, `verifyOptions`: the options of each;
* `Command`, `Invocation`: a whole command line;
* `Invocation.parse`: the command line of some arguments in an environment.
-/

namespace GrantProbe

/-! ## Printing rules -/

/-- **A request for the rules of a capability.** -/
structure RulesRequest where
  verbs : List Verb
  preset : Option RolePreset
  resources : List ResourceKind
  subresources : Option (List String)
  noSubresources : Bool
  withoutBootstrap : Bool
  deriving DecidableEq, Repr, Inhabited

namespace RulesRequest

/-- Nothing is asked for. -/
def blank : RulesRequest := ⟨[], none, [], none, false, false⟩

/-- **The capability:** that of the preset, or of the verbs; sub-resources are the listed ones, none, or those
that are derived. -/
def capability (r : RulesRequest) : Capability where
  verbs := match r.preset with
    | some preset => preset.verbs
    | none => r.verbs
  resources := r.resources
  subresources := r.subresources <|> if r.noSubresources then some [] else none

/-- The rules of the capability, with those that every identity receives unless they are not wanted. -/
def rules (r : RulesRequest) : List Rule :=
  if r.withoutBootstrap then r.capability.rules else r.capability.grantedRules

/-- **A request is complete** when it has verbs or a preset, and a kind of resource. -/
def check (r : RulesRequest) : Except UsageError RulesRequest :=
  if !r.verbs.isEmpty && r.preset.isSome then .error (.conflict "--verbs <VERBS>" "--role <ROLE>")
  else if r.subresources.isSome && r.noSubresources then
    .error (.conflict "--subresources <SUBRESOURCES>" "--no-subresources")
  else if (r.verbs.isEmpty && r.preset.isNone) || r.resources.isEmpty then .error .missingArgument
  else .ok r

end RulesRequest

/-- The options of a request for rules. -/
def rulesOptions : List (CommandOption RulesRequest) := [
  .many "verbs" "VERBS" (.orError Verb.ofText) (fun r v => { r with verbs := r.verbs ++ [v] }),
  .single "role" "ROLE" (.word RolePreset.ofText?) (fun r p => { r with preset := some p }) none none,
  .many "resources" "RESOURCES" (.orError ResourceKind.ofText)
    (fun r k => { r with resources := r.resources ++ [k] }),
  .many "subresources" "SUBRESOURCES" .text
    (fun r s => { r with subresources := some (r.subresources.getD [] ++ [s]) }),
  .flag "no-subresources" (fun r b => { r with noSubresources := b }) none,
  .flag "without-bootstrap" (fun r b => { r with withoutBootstrap := b }) none]

/-! ## Options of several commands -/

/-- The option that names the file with the settings of the cluster. -/
def kubeconfigOption {δ : Type} (put : δ → Option String → δ) : CommandOption δ :=
  .single "kubeconfig" "KUBECONFIG" .path (fun d s => put d (some s)) (some "KUBECONFIG") none

/-- The options of a verification. -/
def verifierOptions : List (CommandOption VerifierConfig) := [
  .single "verification" "POLICY" (.orReason VerificationPolicy.ofText)
    (fun c p => { c with policy := p }) (some "VERIFICATION_POLICY") none,
  .single "verify-retries" "VERIFY_RETRIES" .small (fun c n => { c with maxRetries := n }) none none,
  .single "verify-delay-ms" "VERIFY_DELAY_MS" .millis (fun c d => { c with initialDelay := d })
    none none]

/-! ## Running cases -/

/-- **A request to run cases,** or to list their names. -/
structure RunRequest where
  config : Config
  filter : Option String
  listOnly : Bool

/-- What has been read of a request to run cases: whether there is an address, and the rest. -/
structure RunDraft where
  hasAddress : Bool
  request : RunRequest

namespace RunDraft

/-- The defaults, without an address. -/
def blank : RunDraft := ⟨false, ⟨.new "", none, false⟩⟩

/-- The draft with its configuration changed. -/
def withConfig (d : RunDraft) (c : Config) : RunDraft := { d with request := { d.request with config := c } }

/-- The draft with the settings of the tracking service changed. -/
def withTracking (d : RunDraft) (t : TrackingSettings) : RunDraft :=
  d.withConfig { d.request.config with tracking := t }

/-- **A request is complete** when it has an address. -/
def check (d : RunDraft) : Except UsageError RunRequest :=
  if d.hasAddress then .ok d.request else .error .missingArgument

end RunDraft

/-- The options that tell how to reach the tracking service. -/
def trackingOptions : List (CommandOption RunDraft) := [
  .single "tracking-uri" "TRACKING_URI" .text
    (fun d s => { d.withTracking { d.request.config.tracking with baseUrl := s } with hasAddress := true })
    (some "MLFLOW_TRACKING_URI") none,
  .single "workspaces" "WORKSPACES" .text
    (fun d s => d.withConfig { d.request.config with workspaces := parseWorkspaces s })
    (some "WORKSPACES") none,
  .single "admin-token" "ADMIN_TOKEN" .text
    (fun d s => d.withConfig { d.request.config with adminToken := some s }) (some "KUBE_TOKEN") none,
  .flag "insecure-tls"
    (fun d b => d.withTracking { d.request.config.tracking with insecureTls := b }) (some "DISABLE_TLS"),
  .single "ca-bundle" "CA_BUNDLE" .path
    (fun d s => d.withTracking { d.request.config.tracking with caBundle := some s })
    (some "CA_BUNDLE") none]

/-- The options of a run. -/
def runOptions : List (CommandOption RunDraft) :=
  trackingOptions ++
    [kubeconfigOption fun d p => d.withConfig { d.request.config with kubeconfig := p }] ++
    verifierOptions.map (CommandOption.within (·.request.config.verifier) fun d v =>
      d.withConfig { d.request.config with verifier := v }) ++ [
    .single "filter" "FILTER" .text
      (fun d s => { d with request := { d.request with filter := some s } }) none (some 'f'),
    .flag "list" (fun d b => { d with request := { d.request with listOnly := b } }) none]

/-! ## Verifying one grant -/

/-- **A request to verify a grant** of an account that exists. -/
structure VerifyRequest where
  kubeconfig : Option String
  verifier : VerifierConfig
  query : GrantQuery

/-- What has been read of a request to verify a grant. -/
structure VerifyDraft where
  kubeconfig : Option String
  verifier : VerifierConfig
  account : Option String
  scope : Option String
  resource : Option ResourceKind
  verb : Verb

namespace VerifyDraft

/-- The defaults. -/
def blank : VerifyDraft := ⟨none, .standard, none, none, none, .get⟩

/-- **A request is complete** when it has an account, a scope and a kind of resource. -/
def check (d : VerifyDraft) : Except UsageError VerifyRequest :=
  match d.account, d.scope, d.resource with
  | some account, some scope, some kind =>
    .ok ⟨d.kubeconfig, d.verifier, ⟨account, scope, kind, d.verb⟩⟩
  | _, _, _ => .error .missingArgument

end VerifyDraft

/-- The options of a verification of one grant. -/
def verifyOptions : List (CommandOption VerifyDraft) :=
  [kubeconfigOption fun d p => { d with kubeconfig := p }] ++
    verifierOptions.map (CommandOption.within (·.verifier) fun d v => { d with verifier := v }) ++ [
    .single "service-account" "SERVICE_ACCOUNT" .text (fun d s => { d with account := some s })
      none (some 's'),
    .single "namespace" "NAMESPACE" .text (fun d s => { d with scope := some s }) none (some 'n'),
    .single "resource" "RESOURCE" (.orError ResourceKind.ofText)
      (fun d k => { d with resource := some k }) none (some 'r'),
    .single "verb" "VERB" (.orError Verb.ofText) (fun d v => { d with verb := v }) none (some 'v')]

/-! ## The command line -/

/-- **A command.** -/
inductive Command where
  | rules (request : RulesRequest)
  | run (request : RunRequest)
  | verify (request : VerifyRequest)

/-- **A command line:** a command, and the format of the log. -/
structure Invocation where
  logFormat : LogFormat
  command : Command

/-- The names of the commands. -/
def commandNames : List String := ["run", "rules", "verify"]

/-- The name that asks for help on a command. -/
def helpName : String := "help"

/-- A draft with the format of the log, which can be given before the name of the command and after it. -/
structure Logged (δ : Type) where
  logFormat : LogFormat
  draft : δ

namespace Logged

variable {δ α : Type}

/-- The option for the format of the log. -/
def formatOption : CommandOption (Logged δ) :=
  .single "log-format" "LOG_FORMAT" (.orReason LogFormat.ofText)
    (fun d f => { d with logFormat := f }) (some "LOG_FORMAT") none

/-- The options of a command, with that for the log and that for help. -/
def options (own : List (CommandOption δ)) : List (CommandOption (Logged δ)) :=
  own.map (CommandOption.within draft fun d x => { d with draft := x }) ++ [formatOption, .helpFlag]

/-- A reading that has not begun. -/
def start (blank : δ) : Reading (Logged δ) := .blank ⟨.text, blank⟩

/-- The format of the log as a reading has it, and where it was given. -/
def formatOf (r : Reading (Logged δ)) : LogFormat × Option OptionSource :=
  (r.draft.logFormat, r.sourceOf "log-format")

/-- All of a command's arguments. -/
def read (own : List (CommandOption δ)) (blank : δ) (check : δ → Except UsageError α)
    (env : Environment) (args : List String) :
    Except UsageError (α × LogFormat × Option OptionSource) := do
  let all := options own
  let (r, _) ← readArguments all [] args (start blank)
  let r ← r.complete all env
  return (← check r.draft.draft, formatOf r)

end Logged

/-- How much a source counts: arguments before the environment, and that before a default. -/
def sourceRank : Option OptionSource → Nat
  | none => 0
  | some .environment => 1
  | some .arguments => 2

/-- **Of two formats,** before the name of a command and after it, the one whose source counts more; the
second if both count as much. -/
def chooseFormat (before after : LogFormat × Option OptionSource) : LogFormat :=
  if sourceRank after.2 < sourceRank before.2 then before.1 else after.1

/-- The command of a name, from the arguments after it. -/
def Command.read (env : Environment) (name : String) (args : List String) :
    Except UsageError (Command × LogFormat × Option OptionSource) :=
  match name with
  | "run" => do
    let (request, format) ← Logged.read runOptions .blank RunDraft.check env args
    return (.run request, format)
  | "rules" => do
    let (request, format) ← Logged.read rulesOptions .blank RulesRequest.check env args
    return (.rules request, format)
  | "verify" => do
    let (request, format) ← Logged.read verifyOptions .blank VerifyDraft.check env args
    return (.verify request, format)
  | _ => .error (.unknownCommand name)

/-- What comes of asking for help on a command: there is help on every command and on none, but no command has
commands of its own. -/
def helpOn : List String → UsageError
  | [] => .helpRequested
  | [name] => if (helpName :: commandNames).contains name then .helpRequested else .unknownCommand name
  | name :: next :: _ =>
    if (helpName :: commandNames).contains name then .unknownCommand next else .unknownCommand name

/-- **The command line** of arguments. What is wrong after the name of the command is reported before what is
wrong with the last option in front of it. -/
def Invocation.parse (env : Environment) (args : List String) : Except UsageError Invocation := do
  let all : List (CommandOption (Logged Unit)) := Logged.options [] ++ [.versionFlag]
  let (r, command) ← readArguments all (commandNames ++ [helpName]) args (Logged.start ())
  match command with
  | none =>
    let r ← r.complete all env
    .error (if r.given.isEmpty then .nothingGiven else .noCommand)
  | some (name, rest) =>
    if name == helpName then .error (helpOn rest)
    else
      let (command, format) ← Command.read env name rest
      let r ← r.complete all env
      return ⟨chooseFormat (Logged.formatOf r) format, command⟩

end GrantProbe
