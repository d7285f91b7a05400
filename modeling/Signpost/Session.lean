import Signpost.Library
import Signpost.Settings.Load
import Signpost.Store
import Signpost.Query.CallPath
import Signpost.Query.Completion
import Signpost.Query.Hover
import Signpost.Query.Resolve
import Signpost.Query.Token
set_option autoImplicit false

/-!
# Sessions

A session answers questions about edited lines from the index of one library.  A question needs the
index only once it has found something to look up; asking never changes anything else.
-/

namespace Signpost

open Query Text

/-- The settings of a library with its index. -/
structure Session where
  settings : Settings
  store : Store
  deriving Inhabited

namespace Session

/-- A session for a source file. -/
def start (settings : Settings) (source : Path) : Session :=
  { settings
    store :=
      { path := source, dialect := settings.dialect, blocked := settings.hints.blockedParameters } }

/-- The name table that the settings describe. -/
def names (s : Session) : NameTable :=
  { mapping := s.settings.hints.mapping
    blockedCanonical := s.settings.hints.blockedCanonical
    blockedAlias := s.settings.hints.blockedAlias }

/-- The completion rules that the settings describe. -/
def rules (h : Settings.Hints) : CompletionRules :=
  { blockedParameters := h.blockedParameters
    offerDefaults := h.addDefaults
    reservedMembers := h.reservedMembers }

/-- The definition of the word at a column of a line. -/
def definitionIn (index : Index) (names : NameTable) (line : Text) (column : Int) :
    Option Definition :=
  match wordAt line column with
  | none => none
  | some span => resolve index names (span.text line) (contextOf (line.take span.start))

/-- What hovering over a column of a line shows. -/
def hoverIn (index : Index) (names : NameTable) (line : Text) (column : Int) : Option Hover :=
  (definitionIn index names line column).bind Hover.of?

/-- The definition that a completion at a column of a line is about. -/
def completedIn (index : Index) (names : NameTable) (line : Text) (column : Int)
    (trigger : Option Text) : Option Definition :=
  let (context, token) := splitPath (callPath (before line column) (trigger == some [',']))
  resolve index names token context

/-- What is offered at a column of a line. -/
def completeIn (index : Index) (names : NameTable) (hints : Settings.Hints) (line : Text)
    (column : Int) (trigger : Option Text) : List Text :=
  (rules hints).items (completedIn index names line column trigger)

/-- The session with its index built, and what there is to note. -/
def ensured (files : FileTree) (s : Session) : Except PathFault (Session × List Notice) :=
  (s.store.ensured files).map fun (store, notices) => ({ s with store }, notices)

/-- The session as a question about a word finds it: without a word there, nothing is looked up. -/
def ensuredAt (files : FileTree) (line : Text) (column : Int) (s : Session) :
    Except PathFault (Session × List Notice) :=
  if (wordAt line column).isSome then s.ensured files else .ok (s, [])

/-- The definition of the word at a column of a line. -/
def definitionAt (files : FileTree) (line : Text) (column : Int) (s : Session) :
    Except PathFault (Session × Option Definition × List Notice) :=
  (s.ensuredAt files line column).map fun (s, notices) =>
    (s, definitionIn s.store.current s.names line column, notices)

/-- What hovering over a column of a line shows. -/
def hover (files : FileTree) (line : Text) (column : Int) (s : Session) :
    Except PathFault (Session × Option Hover × List Notice) :=
  (s.ensuredAt files line column).map fun (s, notices) =>
    (s, hoverIn s.store.current s.names line column, notices)

/-- What is offered at a column of a line. -/
def complete (files : FileTree) (line : Text) (column : Int) (trigger : Option Text) (s : Session) :
    Except PathFault (Session × List Text × List Notice) :=
  (s.ensured files).map fun (s, notices) =>
    (s, completeIn s.store.current s.names s.settings.hints line column trigger, notices)

end Session

/-! ## Opening a session -/

/-- Why a library could not be opened. -/
inductive OpenFault where
  /-- A path cannot be looked at. -/
  | path (fault : PathFault)
  /-- Its settings could not be loaded. -/
  | settings (fault : Settings.LoadFault)
  /-- There is none. -/
  | noLibrary (report : Report)
  deriving Repr, Inhabited

/-- A library that was found, with its settings. -/
structure Opened where
  location : Location
  settings : Settings
  deriving DecidableEq, Repr, Inhabited

/-- Settings with the note that they were loaded. -/
def Settings.loadNoted (s : Surroundings) (root : Path) (overrides : Entries) :
    Except LoadFault Settings × List Notice :=
  match load s root overrides with
  | .ok settings => (.ok settings, [.settingsLoaded root (s.files.exists? (librarySettings root))])
  | .error fault => (.error fault, [])

/-- Finds the library above a path and loads its settings.  The library is looked for with the
settings that hold at the path itself, by the given locator or by a fresh one. -/
def openLibrary (s : Settings.Surroundings) (path : Path) (overrides : Entries)
    (locator : Option Locator) : Option Locator × Except OpenFault Opened × List Notice :=
  match Locator.startOf s.files path with
  | .error fault => (locator, .error (.path fault), [])
  | .ok start =>
    match Settings.loadNoted s start overrides with
    | (.error fault, notices) => (locator, .error (.settings fault), notices)
    | (.ok bootstrap, notices) =>
      match (locator.getD (.ofSettings bootstrap.source)).require s.files start with
      | .error fault => (locator, .error (.path fault), notices)
      | .ok (used, found, more) =>
        let locator := locator.map fun _ => used
        match found with
        | .error report => (locator, .error (.noLibrary report), notices ++ more)
        | .ok location =>
          match Settings.loadNoted s location.root overrides with
          | (.error fault, last) => (locator, .error (.settings fault), notices ++ more ++ last)
          | (.ok settings, last) => (locator, .ok ⟨location, settings⟩, notices ++ more ++ last)

/-- Whether a file gets no hints because it stands beside the library, and what there is to note. -/
def hintsDisabled (files : FileTree) (file : Path) (location : Location)
    (source : Settings.Source) : Except PathFault (Bool × List Notice) :=
  if source.disableFromRoot then
    (location.isBeside files file).map fun beside =>
      (beside,
        if beside && source.noticeWhenDisabled then
          [.disabledAtRoot (files.resolve file) location.root]
        else [])
  else .ok (false, [])

/-- A session for the library above a file; none, if there is no library or the file gets no
hints. -/
def Session.open? (s : Settings.Surroundings) (file : Path) (overrides : Entries)
    (locator : Option Locator) :
    Option Locator × Except OpenFault (Option Session) × List Notice :=
  match openLibrary s file overrides locator with
  | (locator, .error (.noLibrary _), notices) => (locator, .ok none, notices)
  | (locator, .error fault, notices) => (locator, .error fault, notices)
  | (locator, .ok opened, notices) =>
    match hintsDisabled s.files file opened.location opened.settings.source with
    | .error fault => (locator, .error (.path fault), notices)
    | .ok (disabled, more) =>
      (locator,
        .ok (if disabled then none
          else some (.start opened.settings opened.location.sourceFile)),
        notices ++ more)

end Signpost
