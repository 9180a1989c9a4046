import GrantProbe.Text.Terminal

/-!
# Mistakes on the command line

* `UsageError`: what can be wrong with arguments, and the two requests that end a reading early;
* `UsageError.exitCode`, `UsageError.message`: the status that the program ends with, and the words.
-/

namespace GrantProbe

/-- The name of the program. -/
def programName : String := "mlflow-rbac"

/-- **Why arguments make no command.** Options are given as messages show them. -/
inductive UsageError where
  /-- Help is asked for. -/
  | helpRequested
  /-- The version is asked for. -/
  | versionRequested
  /-- There is nothing at all. -/
  | nothingGiven
  /-- There is no command. -/
  | noCommand
  /-- Something that is no command stands where one is expected. -/
  | unknownCommand (text : String)
  | unknownArgument (text : String)
  /-- An option that has to be there is not. -/
  | missingArgument
  | conflict (option other : String)
  /-- An option that can be given once is given again. -/
  | repeated (option : String)
  /-- An option without value has one. -/
  | surplusValue (value option : String)
  /-- The value is not among those that can be given; an empty one counts as none. -/
  | unacceptable (value option : String)
  /-- The value cannot be read. -/
  | unreadable (value option reason : String)
  deriving DecidableEq, Repr, Inhabited

namespace UsageError

/-- **The status that the program ends with.** Help and the version are no mistakes. -/
def exitCode : UsageError → Nat
  | helpRequested | versionRequested => 0
  | _ => 2

/-- How messages show options, and what was typed. -/
def optionText (s : String) : String := Text.styled "1" s

def typedText (s : String) : String := Text.styled "33" s

/-- The first words of a mistake. -/
def mistake (words : String) : String := Text.styled "1;31" "error:" ++ " " ++ words

/-- The words about a value that is refused. -/
def refusal (value option : String) : String :=
  mistake ("invalid value '" ++ typedText value ++ "' for '" ++ optionText option ++ "'")

/-- The last words of a mistake. -/
def advice : String := "\n\nFor more information, try '" ++ optionText "--help" ++ "'.\n"

/-- The words, with controls. -/
def text : UsageError → String
  | helpRequested | nothingGiven => "Usage: " ++ programName ++ " [OPTIONS] <COMMAND>"
  | versionRequested => programName ++ " 0.1.0"
  | noCommand => mistake ("'" ++ programName ++ "' requires a subcommand but one was not provided")
  | unknownCommand text => mistake ("unrecognized subcommand '" ++ typedText text ++ "'" ++ advice)
  | unknownArgument text => mistake ("unexpected argument '" ++ typedText text ++ "' found" ++ advice)
  | missingArgument => mistake "the following required arguments were not provided:"
  | conflict option other =>
    mistake ("the argument '" ++ optionText option ++ "' cannot be used with '" ++ optionText other ++ "'")
  | repeated option =>
    mistake ("the argument '" ++ optionText option ++ "' cannot be used multiple times")
  | surplusValue value option =>
    mistake ("unexpected value '" ++ typedText value ++ "' for '" ++ optionText option ++
      "' found; no more were expected" ++ advice)
  | unacceptable value option =>
    if value.isEmpty then
      mistake ("a value is required for '" ++ optionText option ++ "' but none was supplied")
    else refusal value option ++ advice
  | unreadable value option reason => refusal value option ++ ": " ++ reason ++ advice

/-- **The words:** one line, in which nothing steers a terminal. -/
def message (e : UsageError) : String := Text.firstLine (Text.withoutControls e.text)

end UsageError

end GrantProbe
