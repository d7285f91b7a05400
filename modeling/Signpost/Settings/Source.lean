import Signpost.Path
import Signpost.Settings.Check
set_option autoImplicit false

/-!
# Source settings

Where the indexed library is, relative to the edited file: a directory found by its name in one of
the directories above the file, and a module inside it.
-/

namespace Signpost.Settings

open Check

/-- Where the indexed library is found. -/
structure Source where
  /-- The library's directory. -/
  libraryDir : Text := "cslib"
  /-- The module inside it that is indexed. -/
  entryFile : Text := "main.py"
  /-- Whether files right beside the library get no hints. -/
  disableFromRoot : Bool := false
  /-- Whether that is noted in the log. -/
  noticeWhenDisabled : Bool := true
  deriving DecidableEq, Repr, Inhabited

/-- A plain name. -/
def checkPlainName : Value → Check Text := textWith Path.isPlainName .plainName

/-- Checks the entries of the source settings. -/
def checkSourceEntries (entries : Entries) : Check Source :=
  (fun libraryDir entryFile disableFromRoot noticeWhenDisabled _ =>
      { libraryDir, entryFile, disableFromRoot, noticeWhenDisabled }) <$>
    field entries "library_dir" "cslib" checkPlainName <*>
    field entries "entry_file" "main.py" checkPlainName <*>
    field entries "disable_from_root" false Check.bool <*>
    field entries "msg_on_root_disabled" true Check.bool <*>
    noOthers ["library_dir", "entry_file", "disable_from_root", "msg_on_root_disabled"] entries

/-- Checks the source settings. -/
def checkSource : Value → Check Source := ofSection "SourceConfig" checkSourceEntries

/-- The source settings as data. -/
def Source.toValue (s : Source) : Value :=
  .map [(.str "library_dir", .str s.libraryDir), (.str "entry_file", .str s.entryFile),
    (.str "disable_from_root", .bool s.disableFromRoot),
    (.str "msg_on_root_disabled", .bool s.noticeWhenDisabled)]

end Signpost.Settings
