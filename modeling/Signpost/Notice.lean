import Signpost.Settings
set_option autoImplicit false

/-!
# Notices

What a run tells its log.  A notice says what happened in this library's own terms; `Notice.event`
gives it the form in which it is recorded, with a name, a level, the part of the program that
noticed it, and fields.
-/

namespace Signpost

/-- A record for the log. -/
structure Event where
  name : Text
  level : Level
  /-- The part of the program that recorded it. -/
  logger : Text
  fields : Table Text Value := []
  deriving Repr, Inhabited

/-- Something that happened and may be of interest. -/
inductive Notice where
  /-- An indexed header could not be read. -/
  | unreadHeader (name : Text) (line : Nat)
  /-- An index was built. -/
  | indexBuilt (path : Path) (definitions generation : Nat)
  /-- A source could not be read; an index from before may have been kept. -/
  | rebuildFailed (path : Path) (reason : Text) (keptPrevious : Bool)
  /-- A library was found above a directory. -/
  | libraryFound (start root : Path)
  /-- No library was found above a directory. -/
  | libraryNotFound (start : Path) (libraryDir : Text)
  /-- A library has no module to index. -/
  | entryMissing (library : Path) (entryFile : Text)
  /-- Settings were loaded. -/
  | settingsLoaded (root : Path) (hasFile : Bool)
  /-- A file gets no hints because it stands beside the library. -/
  | disabledAtRoot (file root : Path)
  deriving DecidableEq, Repr, Inhabited

namespace Notice

/-- A path as data. -/
def ofPath (p : Path) : Value := .str p.text

/-- The record of a notice. -/
def event : Notice → Event
  | .unreadHeader name line =>
    { name := "index.degenerate", level := .debug, logger := "defhint.index.indexer"
      fields := [("name", .str name), ("line", .int line)] }
  | .indexBuilt path definitions generation =>
    { name := "index.built", level := .info, logger := "defhint.index.store"
      fields := [("path", ofPath path), ("definitions", .int definitions),
        ("generation", .int generation)] }
  | .rebuildFailed path reason keptPrevious =>
    { name := "index.rebuild_failed", level := .warning, logger := "defhint.index.store"
      fields := [("path", ofPath path), ("reason", .str reason),
        ("kept_previous", .bool keptPrevious)] }
  | .libraryFound start root =>
    { name := "locate.found", level := .debug, logger := "defhint.locate"
      fields := [("start", ofPath start), ("root", ofPath root)] }
  | .libraryNotFound start libraryDir =>
    { name := "locate.not_found", level := .debug, logger := "defhint.locate"
      fields := [("start", ofPath start), ("marker", .str libraryDir)] }
  | .entryMissing library entryFile =>
    { name := "locate.entry_missing", level := .info, logger := "defhint.locate"
      fields := [("library", ofPath library), ("entry", .str entryFile)] }
  | .settingsLoaded root hasFile =>
    { name := "config.loaded", level := .debug, logger := "defhint.config.loader"
      fields := [("root", ofPath root), ("local", .bool hasFile)] }
  | .disabledAtRoot file root =>
    { name := "session.disabled_at_root", level := .warning, logger := "defhint.session"
      fields := [("file", ofPath file), ("root", ofPath root)] }

end Notice

end Signpost
