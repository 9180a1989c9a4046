import GrantProbe.CommandLine.Usage
import GrantProbe.CommandLine.Value
import GrantProbe.Environment

/-!
# Reading arguments

Arguments are read from left to right into a draft. The value of an option is looked at when the next option
begins, or when the arguments end, so of several mistakes it is this order that decides which is reported.
Options that are not among the arguments may take their value from the environment.

* `CommandOption`, `OptionUse`: an option, and what is stored for it;
* `Argument`: the forms of an argument;
* `Reading`: the draft so far, with `Reading.take` for an option that is given;
* `readArguments`: all arguments, up to the name of a command;
* `Reading.complete`: the end of the arguments, and the environment.
-/

namespace GrantProbe

/-! ## Options -/

/-- **What an option is for,** over drafts of type `δ`. -/
inductive OptionUse (δ : Type) where
  /-- A value is stored. An option that repeats can be given again, and has a value for each piece between
  commas. -/
  | value (placeholder : String) (repeats : Bool) (store : String → δ → Except ValueFault δ)
  /-- It is stored that the option is there. The environment can say that it is not. -/
  | mark (store : Bool → δ → δ)
  | help
  | version

/-- **An option,** with its long name, its short one, and the variable of the environment that it can be taken
from. -/
structure CommandOption (δ : Type) where
  long : String
  short : Option Char
  envName : Option String
  use : OptionUse δ

/-- The same use in a part of a larger draft. -/
def OptionUse.within {σ δ : Type} (get : σ → δ) (put : σ → δ → σ) : OptionUse δ → OptionUse σ
  | value placeholder repeats store =>
    value placeholder repeats fun s d => do return put d (← store s (get d))
  | mark store => mark fun b d => put d (store b (get d))
  | help => help
  | version => version

namespace CommandOption

variable {σ δ α : Type}

/-- The same option in a part of a larger draft. -/
def within (get : σ → δ) (put : σ → δ → σ) (o : CommandOption δ) : CommandOption σ :=
  ⟨o.long, o.short, o.envName, o.use.within get put⟩

/-- The option as messages show it. -/
def title (o : CommandOption δ) : String :=
  match o.use with
  | .value placeholder .. => "--" ++ o.long ++ " <" ++ placeholder ++ ">"
  | _ => "--" ++ o.long

/-- The option has a value. -/
def takesValue (o : CommandOption δ) : Bool := o.use matches .value ..

/-- An option with one value. -/
def single (long placeholder : String) (read : ValueReader α) (put : δ → α → δ)
    (envName : Option String) (short : Option Char) : CommandOption δ :=
  ⟨long, short, envName, .value placeholder false fun s d => do return put d (← read s)⟩

/-- An option with any number of values. -/
def many (long placeholder : String) (read : ValueReader α) (add : δ → α → δ) : CommandOption δ :=
  ⟨long, none, none, .value placeholder true fun s d => do return add d (← read s)⟩

/-- An option without value. -/
def flag (long : String) (put : δ → Bool → δ) (envName : Option String) : CommandOption δ :=
  ⟨long, none, envName, .mark fun b d => put d b⟩

/-- The option that asks for help. -/
def helpFlag : CommandOption δ := ⟨"help", some 'h', none, .help⟩

/-- The option that asks for the version. -/
def versionFlag : CommandOption δ := ⟨"version", some 'V', none, .version⟩

end CommandOption

/-! ## Arguments -/

/-- **The forms of an argument.** -/
inductive Argument where
  /-- Two dashes, after which nothing is an option. -/
  | endOfOptions
  /-- A long name, with or without a value attached. -/
  | long (name : String) (value : Option String)
  /-- Short names, of which the last may have its value attached. -/
  | shorts (letters : List Char)
  | plain (text : String)
  deriving DecidableEq, Repr, Inhabited

/-- The part of a text before the first equals sign, and the part after it if there is one. -/
def cutAtEquals : List Char → List Char × Option (List Char)
  | [] => ([], none)
  | '=' :: rest => ([], some rest)
  | c :: rest => (c :: (cutAtEquals rest).1, (cutAtEquals rest).2)

theorem cutAtEquals_append (s : List Char) :
    (cutAtEquals s).1 ++ (match (cutAtEquals s).2 with | some v => '=' :: v | none => []) = s := by
  fun_induction cutAtEquals s <;> simp_all

/-- **The form of an argument.** One dash alone is no option. -/
def Argument.of (s : String) : Argument :=
  match s.toList with
  | ['-', '-'] => endOfOptions
  | '-' :: '-' :: rest =>
    long (String.ofList (cutAtEquals rest).1) ((cutAtEquals rest).2.map String.ofList)
  | ['-'] => plain s
  | '-' :: rest => shorts rest
  | _ => plain s

/-! ## Reading -/

/-- Where an option is given. -/
inductive OptionSource where
  | environment | arguments
  deriving DecidableEq, Repr, Inhabited

/-- **What has been read so far.** -/
structure Reading (δ : Type) where
  draft : δ
  /-- The options that have been given, by their long names. -/
  given : List (String × OptionSource)
  /-- The option that was given last, with its value if that has been seen. -/
  pending : Option (CommandOption δ × Option String)
  /-- Nothing more is an option. -/
  plainOnly : Bool

/-- A fault of an option's value, as a mistake on the command line. -/
def ValueFault.usage (value option : String) : ValueFault → UsageError
  | unacceptable => .unacceptable value option
  | unreadable reason => .unreadable value option reason

namespace Reading

variable {δ : Type}

/-- Nothing has been read. -/
def blank (draft : δ) : Reading δ := ⟨draft, [], none, false⟩

/-- Where an option has been given. -/
def sourceOf (r : Reading δ) (long : String) : Option OptionSource := r.given.lookup long

/-- Stores values in order, up to the first that is refused. -/
def storeAll (option : String) (store : String → δ → Except ValueFault δ) :
    List String → δ → Except UsageError δ
  | [], d => .ok d
  | s :: rest, d =>
    match store s d with
    | .ok d => storeAll option store rest d
    | .error f => .error (f.usage s option)

/-- The reading with an option given, if that is allowed: only an option that repeats can be given again. -/
def note (source : OptionSource) (o : CommandOption δ) (repeats : Bool) (r : Reading δ) :
    Except UsageError (Reading δ) :=
  if repeats then .ok { r with given := (o.long, source) :: r.given }
  else if (r.sourceOf o.long).isSome then .error (.repeated o.title)
  else .ok { r with given := (o.long, source) :: r.given }

/-- **An option is given.** -/
def take (source : OptionSource) (o : CommandOption δ) (value : Option String) (r : Reading δ) :
    Except UsageError (Reading δ) :=
  match o.use with
  | .help => .error .helpRequested
  | .version => .error .versionRequested
  | .mark store => do
    let r ← r.note source o false
    match value with
    | none => pure { r with draft := store true r.draft }
    | some s =>
      match ValueReader.truth s with
      | .ok b => pure { r with draft := store b r.draft }
      | .error f => .error (f.usage s o.title)
  | .value _ repeats store =>
    match value with
    | none => .error (.unacceptable "" o.title)
    | some s => do
      let r ← r.note source o repeats
      let d ← storeAll o.title store (if repeats then Text.pieces ',' s else [s]) r.draft
      pure { r with draft := d }

/-- Takes the option that was given last, if there is one. -/
def settle (r : Reading δ) : Except UsageError (Reading δ) :=
  match r.pending with
  | none => .ok r
  | some (o, value) => { r with pending := none }.take .arguments o value

/-- An option is given, after the one that was given before. -/
def next (o : CommandOption δ) (value : Option String) (r : Reading δ) :
    Except UsageError (Reading δ) := do
  (← r.settle).take .arguments o value

/-- An option begins whose value is still to come. -/
def await (o : CommandOption δ) (r : Reading δ) : Except UsageError (Reading δ) := do
  return { (← r.settle) with pending := some (o, none) }

/-- The option whose value is to come. -/
def awaiting? (r : Reading δ) : Option (CommandOption δ) :=
  match r.pending with
  | some (o, none) => some o
  | _ => none

/-- A long name. -/
def takeLong (options : List (CommandOption δ)) (name : String) (value : Option String)
    (r : Reading δ) : Except UsageError (Reading δ) :=
  match options.find? (·.long == name), value with
  | none, _ => .error (.unknownArgument ("--" ++ name))
  | some o, some v => if o.takesValue then r.next o (some v) else .error (.surplusValue v o.title)
  | some o, none => if o.takesValue then r.await o else r.next o none

/-- Short names. What follows one that has a value is the value. -/
def takeShorts (options : List (CommandOption δ)) :
    List Char → Reading δ → Except UsageError (Reading δ)
  | [], r => .ok r
  | c :: rest, r =>
    match options.find? (·.short == some c) with
    | none => .error (.unknownArgument (String.ofList ['-', c]))
    | some o =>
      if o.takesValue then
        match rest with
        | [] => r.await o
        | '=' :: value | value => r.next o (some (String.ofList value))
      else do takeShorts options rest (← r.next o none)

/-- Takes from the environment what has not been given. -/
def fromEnvironment (env : Environment) :
    List (CommandOption δ) → Reading δ → Except UsageError (Reading δ)
  | [], r => .ok r
  | o :: rest, r =>
    match o.envName.bind env with
    | none => fromEnvironment env rest r
    | some s =>
      if (r.sourceOf o.long).isSome then fromEnvironment env rest r
      else do fromEnvironment env rest (← r.take .environment o (some s))

/-- **The end of the arguments.** -/
def complete (options : List (CommandOption δ)) (env : Environment) (r : Reading δ) :
    Except UsageError (Reading δ) := do
  fromEnvironment env options (← r.settle)

end Reading

/-- An argument that is neither an option nor a value. It is taken for a command if there are
commands, unless it is one and stands where none can. -/
def strayArgument (commands : List String) (plainOnly : Bool) (s : String) : UsageError :=
  if commands.isEmpty || (plainOnly && commands.contains s) then .unknownArgument s
  else .unknownCommand s

/-- **Reading arguments,** up to the name of a command if there are commands. What follows the name is left. -/
def readArguments {δ : Type} (options : List (CommandOption δ)) (commands : List String) :
    List String → Reading δ → Except UsageError (Reading δ × Option (String × List String))
  | [], r => .ok (r, none)
  | s :: rest, r =>
    if r.plainOnly then .error (strayArgument commands true s)
    else if r.awaiting?.isNone && commands.contains s then .ok (r, some (s, rest))
    else
      match Argument.of s with
      | .endOfOptions => readArguments options commands rest { r with plainOnly := true }
      | .long name value => do readArguments options commands rest (← r.takeLong options name value)
      | .shorts letters => do readArguments options commands rest (← r.takeShorts options letters)
      | .plain s =>
        match r.awaiting? with
        | some o => readArguments options commands rest { r with pending := some (o, some s) }
        | none => .error (strayArgument commands false s)

end GrantProbe
