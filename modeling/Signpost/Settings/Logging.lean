import Signpost.Path
import Signpost.Settings.Check
set_option autoImplicit false

/-!
# Logging settings

Which events are recorded, where to, and in which form.  A destination is one of the two standard
streams or a file given by an absolute path, in which a leading `~` stands for the home directory
of the user, and `~` with a name for that of somebody else.
-/

namespace Signpost

/-- The levels of events, lowest first. -/
inductive Level where
  | debug
  | info
  | warning
  | error
  | critical
  deriving DecidableEq, Repr, Inhabited

namespace Level

/-- The number of a level; a higher one is more severe. -/
def number : Level → Nat
  | .debug => 10
  | .info => 20
  | .warning => 30
  | .error => 40
  | .critical => 50

/-- The name of a level in the settings. -/
def name : Level → Text
  | .debug => "DEBUG"
  | .info => "INFO"
  | .warning => "WARNING"
  | .error => "ERROR"
  | .critical => "CRITICAL"

/-- The name of a level in a record. -/
def word (l : Level) : Text := Text.lowerAscii l.name

/-- All levels, lowest first. -/
def all : List Level := [.debug, .info, .warning, .error, .critical]

end Level

namespace Settings

/-- The two forms of a record. -/
inductive Format where
  /-- One object per line. -/
  | json
  /-- A line to read. -/
  | console
  deriving DecidableEq, Repr, Inhabited

/-- The word for a form. -/
def Format.word : Format → Text
  | .json => "json"
  | .console => "console"

/-- Where records go. -/
inductive Destination where
  | stderr
  | stdout
  | file (path : Path)
  deriving DecidableEq, Repr, Inhabited

/-- A destination as it is written in the settings. -/
def Destination.text : Destination → Text
  | .stderr => "stderr"
  | .stdout => "stdout"
  | .file path => path.text

/-- One output. -/
structure Output where
  format : Format := .console
  destination : Destination := .stderr
  /-- The lowest level recorded here; that of the whole settings if absent. -/
  level : Option Level := none
  deriving DecidableEq, Repr, Inhabited

/-- The logging settings. -/
structure Logging where
  /-- The lowest level recorded at all. -/
  level : Level := .warning
  outputs : List Output := [{}]
  deriving DecidableEq, Repr, Inhabited

open Check

/-- The forms by their words. -/
def formatWords : List (Text × Format) := [Format.json, Format.console].map fun f => (f.word, f)

/-- The levels by their names. -/
def levelWords : List (Text × Level) := Level.all.map fun l => (l.name, l)

/-- Where users are at home. -/
structure Homes where
  /-- The home directory of the user of this run. -/
  own : Path := ⟨.root, []⟩
  /-- The home directories of other users, by their names. -/
  others : Table Text Path := []
  deriving Inhabited

/-- It may be that nobody else is known. -/
instance : Coe Path Homes := ⟨fun own => { own }⟩

/-- The user in whose home directory a path starts; without a name, the user of this run. -/
def homeUser? (p : Path) : Option Text :=
  match p.anchor, p.names with
  | .relative, ('~' :: user) :: _ => some user
  | _, _ => none

/-- The home directory of a user.  A path that starts in a home directory itself is none. -/
def Homes.of? (homes : Homes) (user : Text) : Option Path :=
  let home := if user.isEmpty then some homes.own else Table.get? homes.others user
  home.filter fun p => (homeUser? p).isNone

/-- A path with its leading `~`, and the name of a user after it, replaced by the home directory. -/
def expandHome (homes : Homes) (p : Path) : Option Path :=
  match homeUser? p with
  | none => some p
  | some user => (homes.of? user).map fun home => { home with names := home.names ++ p.names.tail }

/-- Whether a user can be asked for at all: the name has no null character. -/
def isUserName (user : Text) : Bool := !user.any (·.toNat == 0)

/-- Checks a destination. -/
def checkDestination (homes : Homes) (v : Value) : Check Destination :=
  (Check.text v).andThen fun t =>
    if t = Destination.stderr.text then .valid .stderr
    else if t = Destination.stdout.text then .valid .stdout
    else if (homeUser? (Path.ofText t)).any (!isUserName ·) then fault (.broken .userName) v
    else
      match expandHome homes (Path.ofText t) with
      | none => fault .unknownHome v
      | some p =>
        if p.isAbsolute then .valid (.file p)
        else fault (.broken (.absoluteDestination t)) v

/-- Checks the entries of an output. -/
def checkOutputEntries (homes : Homes) (entries : Entries) : Check Output :=
  (fun format destination level _ => { format, destination, level }) <$>
    field entries "format" .console (oneOf formatWords) <*>
    field entries "destination" .stderr (checkDestination homes) <*>
    field entries "level" none (orNull (oneOf levelWords)) <*>
    noOthers ["format", "destination", "level"] entries

/-- Checks an output. -/
def checkOutput (homes : Homes) : Value → Check Output :=
  ofSection "LogOutputConfig" (checkOutputEntries homes)

/-- Checks a list of outputs. -/
def checkOutputs (homes : Homes) : Value → Check (List Output)
  | .list vs => items (checkOutput homes) 0 vs
  | v => fault .notList v

/-- Checks the entries of the logging settings. -/
def checkLoggingEntries (homes : Homes) (entries : Entries) : Check Logging :=
  (fun level outputs _ => { level, outputs }) <$>
    field entries "level" .warning (oneOf levelWords) <*>
    field entries "outputs" [{}] (checkOutputs homes) <*>
    noOthers ["level", "outputs"] entries

/-- Checks the logging settings. -/
def checkLogging (homes : Homes) : Value → Check Logging :=
  ofSection "LoggingConfig" (checkLoggingEntries homes)

/-- An output as data. -/
def Output.toValue (o : Output) : Value :=
  .map [(.str "format", .str o.format.word), (.str "destination", .str o.destination.text),
    (.str "level", match o.level with | none => .null | some l => .str l.name)]

/-- The logging settings as data. -/
def Logging.toValue (l : Logging) : Value :=
  .map [(.str "level", .str l.level.name), (.str "outputs", .list (l.outputs.map Output.toValue))]

end Settings

end Signpost
