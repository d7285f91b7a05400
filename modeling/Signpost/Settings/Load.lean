import Signpost.Report
import Signpost.Settings.Environment
import Signpost.Yaml.Document
set_option autoImplicit false

/-!
# Loading settings

Settings come from four places, each over the one before it: the user's settings file, the settings
file of the library, the environment, and what the caller overrides, where the case of a section
does not matter.  Maps are merged key by key, anything else is replaced.  What no place sets has its
default.
-/

namespace Signpost.Settings

open Text

/-- What surrounds a run: its files, its environment, and where users are at home. -/
structure Surroundings where
  files : FileTree := {}
  environment : Environment := []
  home : Homes := {}
  /-- The user's settings file. -/
  userSettings : Path := ⟨.root, []⟩
  deriving Inhabited

/-- How the data in settings files and in variables is read. -/
structure Readers where
  /-- The value that the bytes of a settings file stand for. -/
  yaml : List UInt8 → Except Unread Value := Yaml.read
  /-- The value that the text of a variable stands for. -/
  json : Text → Except Unread Value := Json.parse
  deriving Inhabited

/-- Why settings could not be loaded. -/
inductive LoadFault where
  /-- A settings file is malformed or a setting is refused. -/
  | reported (report : Report)
  /-- A variable for a section is malformed. -/
  | environment (sectionName : Text)
  /-- A settings file has a key for a section that is no text. -/
  | keyNotText
  /-- A log file is said to be in the home directory of somebody unknown. -/
  | noHome
  /-- A settings file could not be read. -/
  | unreadable (fault : ReadFault)
  /-- There is no such number, date or character as is written. -/
  | unrepresentable
  /-- A setting is refused that cannot be shown in a report. -/
  | unshowable
  /-- There is data that is not followed here. -/
  | unfollowed
  deriving Repr, Inhabited

/-- Why settings could not be loaded, when something could not be read that would otherwise have
been called malformed. -/
def LoadFault.ofUnread (malformed : LoadFault) : Unread → LoadFault
  | .malformed => malformed
  | .undecoded fault => .unreadable (.undecoded fault)
  | .unrepresentable => .unrepresentable
  | .unfollowed => .unfollowed

/-- The reason given for a malformed settings file. -/
def malformedReason : Text := "malformed YAML"

/-- The reason given for a settings file that holds something else than sections. -/
def notMapReason : Text := "top-level value must be a mapping"

/-- The settings file of the library below `root`. -/
def librarySettings (root : Path) : Path := (root.child ".defhint").child "config.yaml"

/-- The message about variables of a section that are malformed. -/
def environmentMessage (sectionName : Text) : Text :=
  "error parsing value for field \"" ++ sectionName ++ "\" from source \"EnvSettingsSource\""

/-- Checks entries that came from outside. -/
def accept (homes : Homes) (entries : Entries) : Except LoadFault Settings :=
  if entries.all fun e => e.1.text?.isSome then
    match (checkEntries homes true entries).outcome with
    | .accepted settings => .ok settings
    | .noHome => .error .noHome
    | .refused f _ =>
      match Report.invalidSetting? f.field f.given f.cause.message with
      | some report => .error (.reported report)
      | none => .error .unshowable
  else .error .keyNotText

namespace Readers

/-- The entries of a settings file; a missing or empty one has none. -/
def entries (r : Readers) (files : FileTree) (path : Path) : Except LoadFault Entries :=
  match files.look path with
  | .error fault => .error (.unreadable (.unopened fault))
  | .ok none => .ok []
  | .ok (some _) =>
    match files.readBytes path with
    | .error fault => .error (.unreadable (.unopened fault))
    | .ok bytes =>
      match r.yaml bytes with
      | .error why =>
        .error (.ofUnread (.reported (.unparsedSettings path.text malformedReason)) why)
      | .ok .null => .ok []
      | .ok (.map entries) => .ok entries
      | .ok _ => .error (.reported (.unparsedSettings path.text notMapReason))

/-- All sources put over each other. -/
def layers (r : Readers) (s : Surroundings) (root : Path) (overrides : Entries) :
    Except LoadFault Entries := do
  let user ← r.entries s.files s.userSettings
  let library ← r.entries s.files (librarySettings root)
  match s.environment.entriesWith r.json with
  | .error (name, why) => .error (.ofUnread (.environment name) why)
  | .ok environment =>
    .ok (Value.merge (Value.merge user library)
      (Value.merge environment (Environment.spelled sectionNames overrides)))

/-- The settings for the library below `root`. -/
def load (r : Readers) (s : Surroundings) (root : Path) (overrides : Entries) :
    Except LoadFault Settings := do
  accept s.home (← r.layers s root overrides)

end Readers

/-- The entries of a settings file, read as YAML. -/
def readEntries (files : FileTree) (path : Path) : Except LoadFault Entries :=
  Readers.entries {} files path

/-- The settings for the library below `root`, settings files being read as YAML and variables as
JSON. -/
def load (s : Surroundings) (root : Path) (overrides : Entries) : Except LoadFault Settings :=
  Readers.load {} s root overrides

end Signpost.Settings
