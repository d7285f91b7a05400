import Signpost.Command.Usage
import Signpost.FileTree
import Signpost.Text.Digit
set_option autoImplicit false

/-!
# Arguments

From the arguments of a run to what it is asked to do.  Options and arguments of a command may come
in any order, and everything after `--` is an argument; the options of the program itself come
before the command.  Help and version win over everything that could be read; after them options are
checked in the order in which they were given, then the arguments, and at last that none is left
over.
-/

namespace Signpost.Command

open Text

/-- The options. -/
inductive OptionName where
  | version
  | verbose
  | help
  | json
  | trigger
  deriving DecidableEq, Repr, Inhabited

/-- An option that is accepted somewhere. -/
structure OptionSpec where
  option : OptionName
  /-- Its name, with the two dashes. -/
  name : Text
  /-- The letter that stands for it after a single dash. -/
  letter : Option Char := none
  takesValue : Bool := false
  deriving DecidableEq, Repr, Inhabited

/-- The options of the program and of each command. -/
def optionsOf : Scope → List OptionSpec
  | none => [{ option := .version, name := "--version" },
      { option := .verbose, name := "--verbose", letter := 'v' },
      { option := .help, name := "--help" }]
  | some .complete => [{ option := .trigger, name := "--trigger", takesValue := true },
      { option := .json, name := "--json" }, { option := .help, name := "--help" }]
  | some _ => [{ option := .json, name := "--json" }, { option := .help, name := "--help" }]

/-- An option that was given, with its value. -/
structure Given where
  option : OptionName
  value : Text := []
  deriving DecidableEq, Repr, Inhabited

/-- What was read from the arguments. -/
structure Parsed where
  given : List Given := []
  arguments : List Text := []
  deriving DecidableEq, Repr, Inhabited

/-- One argument that is an option. -/
inductive OptionRead where
  /-- Complete options. -/
  | given (options : List Given)
  /-- An option whose value is the next argument. -/
  | needsValue (option : OptionName) (name : Text)
  deriving DecidableEq, Repr, Inhabited

/-- Reads single-letter options that share one dash. -/
def readLetters (specs : List OptionSpec) : Text → Except UsageFault (List Given)
  | [] => .ok []
  | c :: cs =>
    match specs.find? (·.letter == some c) with
    | none => .error (.noSuchOption ['-', c] [])
    | some spec => (readLetters specs cs).map (⟨spec.option, []⟩ :: ·)

/-- Reads an argument that starts with a dash.  Only an option with two dashes can bring its value
along, after an equals sign. -/
def readOption (specs : List OptionSpec) (argument : Text) : Except UsageFault OptionRead :=
  let (name, value) := cutAt '=' argument
  match specs.find? (·.name == name), value with
  | some spec, none =>
    .ok (if spec.takesValue then .needsValue spec.option name else .given [⟨spec.option, []⟩])
  | some spec, some v =>
    if spec.takesValue then .ok (.given [⟨spec.option, v⟩]) else .error (.valueRefused name)
  | none, _ =>
    if startsWith argument ['-', '-'] then
      .error (.noSuchOption name (closeTo name (specs.map (·.name))))
    else (readLetters specs (argument.drop 1)).map .given

/-- Whether an argument is an option: a dash, and something after it. -/
def isOption : Text → Bool
  | '-' :: _ :: _ => true
  | _ => false

/-- Reads arguments.  If `mixed`, options may follow arguments; else the first one ends them. -/
def scan (specs : List OptionSpec) (mixed : Bool) : List Text → Except UsageFault Parsed
  | [] => .ok {}
  | argument :: rest =>
    if argument = ['-', '-'] then .ok { arguments := rest }
    else if isOption argument then
      match readOption specs argument with
      | .error fault => .error fault
      | .ok (.given options) =>
        (scan specs mixed rest).map fun p => { p with given := options ++ p.given }
      | .ok (.needsValue option name) =>
        match rest with
        | [] => .error (.valueMissing name)
        | value :: rest =>
          (scan specs mixed rest).map fun p => { p with given := ⟨option, value⟩ :: p.given }
    else if mixed then
      (scan specs mixed rest).map fun p => { p with arguments := argument :: p.arguments }
    else .ok { arguments := argument :: rest }

/-! ## Values of arguments -/

/-- The characters that may trigger a completion. -/
def triggers : List Text := [".", "(", ","]

/-- Checks the value of the trigger option. -/
def checkTrigger (value : Text) : Except UsageFault Unit :=
  if triggers.contains value then .ok ()
  else
    .error (.invalidValue "--trigger"
      (quoted value ++ " is not one of " ++ joinWith [',', ' '] (triggers.map quoted) ++ "."))

/-- Checks a position, which is counted from one. -/
def checkPosition (name value : Text) : Except UsageFault Nat :=
  match integer? value with
  | none => .error (.invalidValue name (quoted value ++ " is not a valid integer range."))
  | some i =>
    if 1 ≤ i then .ok i.toNat
    else .error (.invalidValue name (ofInt i ++ " is not in the range x>=1."))

/-- Whether something stands where a path points, as it is written: a path that ends with a slash
or a dot points to a directory. -/
def isThere (files : FileTree) (written : Text) : Bool :=
  !written.isEmpty &&
    (match (splitAtEach (· == '/') written).getLast? with
      | some last =>
        if last.isEmpty || last == ['.'] then files.isDir (Path.ofText written)
        else files.exists? (Path.ofText written)
      | none => false)

/-- Why a request could not be read. -/
inductive Refusal where
  /-- The arguments are wrong. -/
  | usage (scope : Scope) (fault : UsageFault)
  /-- A path among the arguments cannot be used. -/
  | path (fault : PathFault)
  deriving DecidableEq, Repr, Inhabited

/-- Checks the path of an argument.  `kind` is what it is called in the message, and `dirAllowed`
says whether it may be that of a directory. -/
def checkPath (files : FileTree) (verb : Verb) (name kind value : Text) (dirAllowed : Bool) :
    Except Refusal Path :=
  let p := Path.ofText value
  let invalid (reason : Text) : Except Refusal Path :=
    .error (.usage (some verb) (.invalidValue name (kind ++ ' ' :: (quoted value ++ reason))))
  if !p.isUsable then .error (.path .unusable)
  else if !isThere files value then invalid " does not exist."
  else if !dirAllowed && files.isDir p then invalid " is a directory."
  else .ok p

/-! ## Requests -/

/-- A place in a file, counted from one. -/
structure Position where
  file : Path
  line : Nat
  column : Nat
  deriving DecidableEq, Repr, Inhabited

/-- What a run is asked to do. -/
inductive Request where
  | help (scope : Scope)
  | version
  /-- Nothing was asked; the help page is shown as an error. -/
  | nothing
  | index (path : Path) (asJson : Bool)
  | hover (position : Position) (asJson : Bool)
  | complete (position : Position) (trigger : Option Text) (asJson : Bool)
  deriving DecidableEq, Repr, Inhabited

/-- The next argument, which has to be there. -/
def required (name : Text) (arguments : List Text) : Except UsageFault (Text × List Text) :=
  match arguments with
  | [] => .error (.missingArgument name)
  | a :: rest => .ok (a, rest)

/-- Nothing may be left over. -/
def noneLeft (arguments : List Text) : Except UsageFault Unit :=
  match arguments with
  | [] => .ok ()
  | _ :: _ => .error (.unexpected arguments)

/-- Reads the three arguments that name a place in a file. -/
def readPosition (files : FileTree) (verb : Verb) (arguments : List Text) :
    Except Refusal Position := do
  let (file, rest) ← (required "FILE" arguments).mapError (.usage (some verb))
  let file ← checkPath files verb "FILE" "File" file false
  let counted : Except UsageFault (Nat × Nat) := do
    let (line, rest) ← required "LINE" rest
    let line ← checkPosition "LINE" line
    let (column, rest) ← required "COLUMN" rest
    let column ← checkPosition "COLUMN" column
    noneLeft rest
    .ok (line, column)
  let (line, column) ← counted.mapError (.usage (some verb))
  .ok ⟨file, line, column⟩

/-- Reads the arguments of the index command. -/
def readPath (files : FileTree) (verb : Verb) (arguments : List Text) : Except Refusal Path := do
  let (path, rest) := match arguments with
    | [] => (['.'], [])
    | a :: rest => (a, rest)
  let path ← checkPath files verb "[PATH]" "Path" path true
  (noneLeft rest).mapError (.usage (some verb))
  .ok path

/-- Whether an option was given. -/
def Parsed.has (p : Parsed) (o : OptionName) : Bool := p.given.any (·.option == o)

/-- The value of an option; the last one counts. -/
def Parsed.value? (p : Parsed) (o : OptionName) : Option Text :=
  ((p.given.filter (·.option == o)).getLast?).map (·.value)

/-- Reads the arguments of a command. -/
def readCommand (files : FileTree) (verb : Verb) (arguments : List Text) :
    Except Refusal Request := do
  let p ← (scan (optionsOf (some verb)) true arguments).mapError (.usage (some verb))
  if p.has .help then .ok (.help (some verb))
  else
    match p.value? .trigger with
    | some value => (checkTrigger value).mapError (.usage (some verb))
    | none => .ok ()
    match verb with
    | .index => do .ok (.index (← readPath files verb p.arguments) (p.has .json))
    | .hover => do .ok (.hover (← readPosition files verb p.arguments) (p.has .json))
    | .complete => do
      .ok (.complete (← readPosition files verb p.arguments) (p.value? .trigger) (p.has .json))

/-- A request, or why there is none, together with whether debug logging is asked for. -/
structure Reading where
  verbose : Bool
  request : Except Refusal Request

/-- The help page or the version, if the options of the program ask for one: the first that does
counts. -/
def askedFor? (p : Parsed) : Option Request :=
  p.given.findSome? fun g =>
    match g.option with
    | .help => some (.help none)
    | .version => some .version
    | _ => none

/-- What comes of a word that is no command, `arguments` being the word and all after it.  A word
with a mark in front may be an option that came too late: it is read as one, and counts if it asks
for something or is no option either. -/
def readUnknown (word : Text) (arguments : List Text) : Except UsageFault Request :=
  let unknown : Except UsageFault Request :=
    .error (.noSuchCommand word (closeTo word (Verb.all.map Verb.word)))
  match scan (optionsOf none) false arguments with
  | .error fault => .error fault
  | .ok p =>
    match askedFor? p with
    | some request => .ok request
    | none => unknown

/-- Reads all arguments of a run. -/
def read (files : FileTree) (arguments : List Text) : Reading :=
  match scan (optionsOf none) false arguments with
  | .error fault => ⟨false, .error (.usage none fault)⟩
  | .ok p =>
    let verbose := p.has .verbose
    match askedFor? p, arguments, p.arguments with
    | some request, _, _ => ⟨verbose, .ok request⟩
    | none, [], _ => ⟨verbose, .ok .nothing⟩
    | none, _, [] => ⟨verbose, .error (.usage none .missingCommand)⟩
    | none, _, word :: rest =>
      match Verb.ofWord? word with
      | none => ⟨verbose, (readUnknown word (word :: rest)).mapError (.usage none)⟩
      | some verb => ⟨verbose, readCommand files verb rest⟩

end Signpost.Command
