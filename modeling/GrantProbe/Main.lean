import GrantProbe.CommandLine.Perform
import GrantProbe.Probe.Suffix

/-!
# The program

Reads the arguments and the environment, carries the command out, and prints what it says. What a command asks
of the machine is answered by the machine; there is no transport, so no connection to a cluster or to a tracking
service comes about.

* `Machine.answer`: the answer to everything that crosses the wire;
* `main`: the program.
-/

namespace GrantProbe.Machine

/-- The variables of the environment that are looked at. -/
def variableNames : List String := (Logged.options runOptions).filterMap (·.envName) ++ ["HOME"]

/-- The environment of the process. -/
def environment : IO Environment := do
  let entries ← variableNames.filterMapM fun name => do return (← IO.getEnv name).map (name, ·)
  return Environment.ofList entries

/-- Why a file cannot be read, if it cannot. -/
def unread (path : String) : IO (Option String) := do
  try
    let _ ← IO.FS.readBinFile path
    return none
  catch _ => return some "No such file or directory (os error 2)"

/-- A suffix that is drawn at random. -/
def suffix : IO String := do
  let draws ← (List.range suffixLength).mapM fun _ => IO.rand 0 (suffixAlphabet.length - 1)
  return suffixOf fun i => draws.getD i 0

/-- **The answer to what crosses the wire.** -/
def answer (env : Environment) : (r : WireAsk) → IO r.Answer
  | .connect named => do
    let failure ← match settingsPath? env named with
      | some path => unread path
      | none => pure none
    return connection env (fun _ => failure) named
  | .cluster _ => return .failed Http.connectFailure
  | .tracking .. => return .failed Http.connectFailure
  | .certificates path => do return ⟨path, ← unread path⟩
  | .sleep d => IO.sleep (UInt32.ofNat d.millisToEnd)
  | .suffix => suffix
  | .factor => do return 0.5 + (← IO.rand 0 999999).toFloat / 1e6
  | .clock => do return .ofMillis (← IO.monoMsNow)

/-- Carries a program out. -/
def carryOut (env : Environment) {α : Type} : Program wire α → IO α
  | .done a => pure a
  | .ask r next => do
    let x ← answer env r
    carryOut env (next x)

end GrantProbe.Machine

/-- **The program.** Its status is 0 for success, 1 for a command that did not succeed, 2 for a command line
that makes no command, and 101 for an abnormal end. -/
def main (args : List String) : IO UInt32 := do
  let env ← GrantProbe.Machine.environment
  match GrantProbe.Invocation.parse env args with
  | .error e =>
    if e.exitCode == 0 then IO.println e.message else IO.eprintln e.message
    return UInt32.ofNat e.exitCode
  | .ok invocation =>
    match ← GrantProbe.Machine.carryOut env invocation.command.perform.run with
    | .ok (.ok output) =>
      IO.print output
      return 0
    | .ok (.error f) =>
      IO.eprintln ("Error: " ++ f.message)
      return 1
    | .error _ =>
      IO.eprintln "Error: the command ended abnormally"
      return 101
