import Signpost.Text.Likeness
import Signpost.Text.Quoted
set_option autoImplicit false

/-!
# Usage

The commands of the command line, their help pages, and the messages about arguments that are
wrong.
-/

namespace Signpost.Command

open Text

/-- The name of the program. -/
def programName : Text := "defhint"

/-- The version of the program. -/
def version : Text := "0.1.0"

/-- The commands. -/
inductive Verb where
  | index
  | hover
  | complete
  deriving DecidableEq, Repr, Inhabited

/-- The word for a command. -/
def Verb.word : Verb → Text
  | .index => "index"
  | .hover => "hover"
  | .complete => "complete"

/-- All commands. -/
def Verb.all : List Verb := [.index, .hover, .complete]

/-- The command with a word. -/
def Verb.ofWord? (w : Text) : Option Verb := Verb.all.find? (·.word == w)

/-- What a message about usage is for: the program as a whole or one command. -/
abbrev Scope := Option Verb

/-- The command as it is typed. -/
def commandPath : Scope → Text
  | none => programName
  | some v => programName ++ ' ' :: v.word

/-- The arguments of a command as they are shown. -/
def argumentLine : Scope → Text
  | none => "[OPTIONS] COMMAND [ARGS]..."
  | some .index => "[OPTIONS] [PATH]"
  | some _ => "[OPTIONS] FILE LINE COLUMN"

/-- The usage line. -/
def usageLine (s : Scope) : Text := "Usage: " ++ commandPath s ++ ' ' :: argumentLine s

/-- The body of a help page. -/
def helpLines : Scope → List Text
  | none =>
    ["  defhint - signature hints and completions for an indented def/class dialect.",
     "",
     "Options:",
     "  --version      Show the version and exit.",
     "  -v, --verbose  Enable debug logging",
     "  --help         Show this message and exit.",
     "",
     "Commands:",
     "  complete  List completions for the call or namespace at the cursor.",
     "  hover     Show the definition under the cursor.",
     "  index     Index a module and list its definitions."]
  | some .index =>
    ["  Index a module and list its definitions.",
     "",
     "  PATH is either the module to index or a directory below the library root",
     "  (default: current directory).",
     "",
     "Options:",
     "  --json  Output as JSON",
     "  --help  Show this message and exit."]
  | some .hover =>
    ["  Show the definition under the cursor.",
     "",
     "  LINE and COLUMN are 1-based positions in FILE.",
     "",
     "Options:",
     "  --json  Output as JSON",
     "  --help  Show this message and exit."]
  | some .complete =>
    ["  List completions for the call or namespace at the cursor.",
     "",
     "  LINE and COLUMN are 1-based positions in FILE; the cursor sits before COLUMN,",
     "  so COLUMN may be one past the end of the line.",
     "",
     "Options:",
     "  --trigger [.|(|,]  Character that triggered completion",
     "  --json             Output as JSON",
     "  --help             Show this message and exit."]

/-- A help page. -/
def help (s : Scope) : Text := joinWith ['\n'] (usageLine s :: [] :: helpLines s) ++ ['\n']

/-- What is wrong with the arguments. -/
inductive UsageFault where
  /-- A word that is no command, and the commands that are close to it. -/
  | noSuchCommand (word : Text) (close : List Text)
  | missingCommand
  /-- A name that is no option, and the options that are close to it. -/
  | noSuchOption (name : Text) (close : List Text)
  /-- An option at the end without the value it needs. -/
  | valueMissing (name : Text)
  /-- A value given to an option that takes none. -/
  | valueRefused (name : Text)
  | missingArgument (name : Text)
  /-- An argument or option whose value is refused, and why. -/
  | invalidValue (name reason : Text)
  | unexpected (arguments : List Text)
  deriving DecidableEq, Repr, Inhabited

namespace UsageFault

/-- The hint at what may have been meant. -/
def suggestion : List Text → Text
  | [] => []
  | [name] => " Did you mean " ++ quoted name ++ "?"
  | names => " (Did you mean one of: " ++ joinWith [',', ' '] (names.map quoted) ++ "?)"

/-- The wording of a fault. -/
def message : UsageFault → Text
  | .noSuchCommand word close => "No such command " ++ quoted word ++ "." ++ suggestion close
  | .missingCommand => "Missing command."
  | .noSuchOption name close => "No such option " ++ quoted name ++ "." ++ suggestion close
  | .valueMissing name => "Option " ++ quoted name ++ " requires an argument."
  | .valueRefused name => "Option " ++ quoted name ++ " does not take a value."
  | .missingArgument name => "Missing argument " ++ quoted name ++ "."
  | .invalidValue name reason => "Invalid value for " ++ quoted name ++ ": " ++ reason
  | .unexpected arguments =>
    (if arguments.length = 1 then "Got unexpected extra argument (" else
      "Got unexpected extra arguments (") ++ joinWith [' '] arguments ++ ")"

/-- Whether the usage line is shown with the message. -/
def showsUsage : UsageFault → Bool
  | .valueMissing _ => false
  | .valueRefused _ => false
  | _ => true

/-- What is shown about a fault. -/
def page (s : Scope) (f : UsageFault) : Text :=
  (if f.showsUsage then
    usageLine s ++ "\nTry '" ++ commandPath s ++ " --help' for help.\n\n"
  else []) ++ "Error: " ++ f.message ++ "\n"

end UsageFault

end Signpost.Command
