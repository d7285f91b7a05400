import Signpost.Notice
import Signpost.Report
set_option autoImplicit false

/-!
# Libraries

A library is a directory of a known name, and its root is the directory that holds it.  It is looked
for in a starting directory and in the directories above it, nearest first; the first directory of
that name decides, even when the module to index is missing from it.

A locator remembers what it found for each starting directory, misses included, until it is told to
forget.  A path that cannot be looked at changes nothing.
-/

namespace Signpost

/-- Where a library is. -/
structure Location where
  /-- The directory that holds the library. -/
  root : Path
  libraryDir : Path
  /-- The module to index. -/
  sourceFile : Path
  deriving DecidableEq, Repr, Inhabited

namespace Location

/-- The place of a library in a directory.  The names are read as paths, whatever they are. -/
def within (here : Path) (libraryDir entryFile : Text) : Location :=
  let library := here.join (.ofText libraryDir)
  ⟨here, library, library.join (.ofText entryFile)⟩

/-- Looks for a library in the given directories, in order.  The second part says what was found or
missed. -/
def search (files : FileTree) (libraryDir entryFile : Text) (start : Path) :
    List Path → Except PathFault (Option Location × Notice)
  | [] => .ok (none, .libraryNotFound start libraryDir)
  | here :: above =>
    let location := within here libraryDir entryFile
    match files.seeDir location.libraryDir with
    | .error fault => .error fault
    | .ok false => search files libraryDir entryFile start above
    | .ok true =>
      match files.seeFile location.sourceFile with
      | .error fault => .error fault
      | .ok true => .ok (some location, .libraryFound start here)
      | .ok false => .ok (none, .entryMissing location.libraryDir entryFile)

/-- The library for a starting directory. -/
def above (files : FileTree) (libraryDir entryFile : Text) (start : Path) :
    Except PathFault (Option Location × Notice) :=
  search files libraryDir entryFile start start.ancestors

/-- Whether a file stands right beside the library. -/
def isBeside (files : FileTree) (file : Path) (l : Location) : Except PathFault Bool :=
  (files.resolveUsable file).map fun p => p.parent == l.root

end Location

/-- Looks libraries up and remembers what it found. -/
structure Locator where
  libraryDir : Text := "cslib"
  entryFile : Text := "main.py"
  /-- What was found, by starting directory. -/
  found : Table Path (Option Location) := []
  deriving DecidableEq, Repr, Inhabited

namespace Locator

/-- A locator for the names in the settings, which remembers nothing. -/
def ofSettings (s : Settings.Source) : Locator :=
  { libraryDir := s.libraryDir, entryFile := s.entryFile }

/-- The starting directory for a path: the path itself if it is a directory, else the one that holds
it. -/
def startOf (files : FileTree) (p : Path) : Except PathFault Path :=
  match files.resolveUsable p with
  | .error fault => .error fault
  | .ok p =>
    (files.seeDir p).map fun isDir => if isDir then p else p.parent

/-- The library above a starting directory: as remembered, or looked up and remembered. -/
def locateFrom (files : FileTree) (start : Path) (l : Locator) :
    Except PathFault (Locator × Option Location × List Notice) :=
  match Table.get? l.found start with
  | some location => .ok (l, location, [])
  | none =>
    (Location.above files l.libraryDir l.entryFile start).map fun (location, notice) =>
      ({ l with found := Table.insert l.found start location }, location, [notice])

/-- The library above a path. -/
def locate (files : FileTree) (p : Path) (l : Locator) :
    Except PathFault (Locator × Option Location × List Notice) :=
  (startOf files p).bind fun start => l.locateFrom files start

/-- The report on a library that was not found. -/
def notFound (l : Locator) (p : Path) : Report :=
  .noLibrary p.text (l.libraryDir ++ '/' :: l.entryFile)

/-- The library above a path; its absence is reported. -/
def require (files : FileTree) (p : Path) (l : Locator) :
    Except PathFault (Locator × Except Report Location × List Notice) :=
  (l.locate files p).map fun (l, location, notices) =>
    (l, match location with | some found => .ok found | none => .error (l.notFound p), notices)

/-- Forgets what was found for the starting directory of a path. -/
def forget (files : FileTree) (p : Path) (l : Locator) : Except PathFault Locator :=
  (startOf files p).map fun start => { l with found := Table.erase l.found start }

/-- Forgets everything. -/
def forgetAll (l : Locator) : Locator := { l with found := [] }

end Locator

end Signpost
