import Signpost.Index.Build
import Signpost.Notice
import Signpost.Report
set_option autoImplicit false

/-!
# Index stores

A store owns the index of one source file.  The index is built when it is first needed, and after
that only on request.  When the source cannot be read the index from before stays; if there is none,
the index is empty from then on.
-/

namespace Signpost

/-- The index of one source file. -/
structure Store where
  /-- The source file. -/
  path : Path
  dialect : Dialect := {}
  /-- Parameters left out of the index. -/
  blocked : List Text := []
  /-- The index, once reading the source has been tried. -/
  index : Option Index := none
  /-- How many times an index was built. -/
  generation : Nat := 0
  deriving Inhabited

namespace Store

/-- Whether there is an index. -/
def isBuilt (s : Store) : Bool := s.index.isSome

/-- The current index; empty before the first. -/
def current (s : Store) : Index := s.index.getD []

/-- A store after an attempt to build its index: the new store, what there is to note, and the
reason if the source could not be read. -/
structure Rebuilt where
  store : Store
  notices : List Notice
  failure : Option Text := none
  deriving Inhabited

/-- The store with the index of a source text. -/
def built (source : Text) (s : Store) : Rebuilt :=
  let index := Index.build s.dialect s.blocked source
  { store := { s with index := some index, generation := s.generation + 1 }
    notices :=
      (Index.unread s.dialect s.blocked source).map (fun u => .unreadHeader u.name u.line) ++
        [.indexBuilt s.path index.length (s.generation + 1)] }

/-- The store after its source could not be read. -/
def unread (reason : Text) (s : Store) : Rebuilt :=
  { store := { s with index := some s.current }
    notices := [.rebuildFailed s.path reason s.isBuilt]
    failure := some reason }

/-- Reads the source again and replaces the index.  A path that cannot be used at all is an error,
and changes nothing. -/
def rebuild (files : FileTree) (s : Store) : Except PathFault Rebuilt :=
  match files.readText s.path with
  | .ok source => .ok (s.built source)
  | .error (.unopened .unusable) => .error .unusable
  | .error fault => .ok (s.unread (fault.message s.path))

/-- The report on a source that could not be read. -/
def report (s : Store) (reason : Text) : Report := .unreadableSource s.path.text reason

/-- What the caller of a rebuild is told: whether there is a new index, or, if that is to be strict,
the report on why there is none. -/
def Rebuilt.outcome (strict : Bool) (r : Rebuilt) : Except Report Bool :=
  match r.failure with
  | none => .ok true
  | some reason => if strict then .error (r.store.report reason) else .ok false

/-- Builds the index unless that has been tried. -/
def ensured (files : FileTree) (s : Store) : Except PathFault (Store × List Notice) :=
  if s.isBuilt then .ok (s, []) else (s.rebuild files).map fun r => (r.store, r.notices)

end Store

end Signpost
