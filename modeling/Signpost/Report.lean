import Signpost.Settings.Check
import Signpost.FileTree
set_option autoImplicit false

/-!
# Reports

Errors that the user is told about.  A report has a code, a message, and its details as data; the
codes starting with 2 are about settings, those starting with 3 about the index.
-/

namespace Signpost

open Text

/-- The codes of reports. -/
inductive Code where
  | settingsUnparsed
  | settingsInvalid
  | sourceUnreadable
  | sourceNotFound
  deriving DecidableEq, Repr, Inhabited

namespace Code

/-- The number of a code. -/
def number : Code → Nat
  | .settingsUnparsed => 2001
  | .settingsInvalid => 2002
  | .sourceUnreadable => 3001
  | .sourceNotFound => 3002

/-- The name of a code. -/
def name : Code → Text
  | .settingsUnparsed => "CONFIG_PARSE_ERROR"
  | .settingsInvalid => "CONFIG_INVALID_VALUE"
  | .sourceUnreadable => "INDEX_SOURCE_UNREADABLE"
  | .sourceNotFound => "INDEX_SOURCE_NOT_FOUND"

/-- All codes. -/
def all : List Code := [.settingsUnparsed, .settingsInvalid, .sourceUnreadable, .sourceNotFound]

/-- The code with a number. -/
def ofNumber? (n : Int) : Option Code := all.find? fun c => (c.number : Int) == n

end Code

/-- An error that the user is told about. -/
structure Report where
  code : Code
  message : Text
  details : Table Text Value := []
  deriving Repr, Inhabited

namespace Report

/-- A report on one line. -/
def line (r : Report) : Text :=
  "[" ++ ofNat r.code.number ++ "] " ++ r.code.name ++ ": " ++ r.message

/-- A settings file that could not be read. -/
def unparsedSettings (path reason : Text) : Report :=
  { code := .settingsUnparsed
    message := "Failed to parse config at " ++ path ++ ": " ++ reason
    details := [("path", .str path), ("reason", .str reason)] }

/-- A setting that is refused.  There is no report if what was given cannot be shown. -/
def invalidSetting? (field : Text) (given : Value) (reason : Text) : Option Report :=
  given.text?.map fun shown =>
    { code := .settingsInvalid
      message := "Invalid value for '" ++ field ++ "': " ++ reason
      details := [("field", .str field), ("value", .str shown), ("reason", .str reason)] }

/-- A source file that could not be read. -/
def unreadableSource (path reason : Text) : Report :=
  { code := .sourceUnreadable
    message := "Cannot read source file " ++ path ++ ": " ++ reason
    details := [("path", .str path), ("reason", .str reason)] }

/-- A library that could not be found. -/
def noLibrary (start marker : Text) : Report :=
  { code := .sourceNotFound
    message := "No library '" ++ marker ++ "' found in " ++ start ++ " or any parent directory"
    details := [("start", .str start), ("marker", .str marker)] }

end Report

end Signpost
