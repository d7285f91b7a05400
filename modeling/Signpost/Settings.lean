import Signpost.Settings.Logging
import Signpost.Settings.Hints
import Signpost.Settings.Source
import Signpost.Settings.Dialect
set_option autoImplicit false

/-!
# Settings

All settings together: one section each for logging, hints, the source and its dialect.  Data from
outside may have keys that are no sections; they are refused or ignored, as the caller says.
-/

namespace Signpost

/-- All settings. -/
structure Settings where
  logging : Settings.Logging := {}
  hints : Settings.Hints := {}
  source : Settings.Source := {}
  dialect : Dialect := {}
  deriving DecidableEq, Repr, Inhabited

namespace Settings

open Check

/-- The names of the sections, in order. -/
def sectionNames : List Text := ["logging", "hints", "source", "dialect"]

/-- Checks all sections; keys that are no sections are refused if `exact`, else ignored. -/
def checkEntries (homes : Homes) (exact : Bool) (entries : Entries) : Check Settings :=
  (fun logging hints source dialect _ => { logging, hints, source, dialect }) <$>
    field entries "logging" {} (checkLogging homes) <*>
    field entries "hints" {} checkHints <*>
    field entries "source" {} checkSource <*>
    field entries "dialect" {} checkDialect <*>
    (if exact then noOthers sectionNames entries else .valid ())

/-- Checks settings, ignoring keys that are no sections. -/
def check (homes : Homes) : Value → Check Settings :=
  ofSection "DefhintConfig" (checkEntries homes false)

/-- The settings as data. -/
def toValue (s : Settings) : Value :=
  .map [(.str "logging", s.logging.toValue), (.str "hints", s.hints.toValue),
    (.str "source", s.source.toValue), (.str "dialect", ofDialect s.dialect)]

end Settings

end Signpost
