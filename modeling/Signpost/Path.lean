import Signpost.Text.Basic
set_option autoImplicit false

/-!
# Paths

A path is an anchor and a list of names.  Writing a path down repeatedly gives the same text:
repeated slashes, `.` components and trailing slashes are gone after reading, while `..` is kept,
because what it means depends on the directories it goes through.  Exactly two leading slashes are
an anchor of their own.

`Path.resolve` gives the meaning of a path in a tree without links: from the root of the tree, with
every `..` taken back together with the name before it.
-/

namespace Signpost

open Text

/-- Where a path starts. -/
inductive Anchor where
  /-- At the working directory. -/
  | relative
  /-- At the root. -/
  | root
  /-- At two slashes, which stand apart from the root. -/
  | doubleRoot
  deriving DecidableEq, Repr, Inhabited

/-- The text of an anchor. -/
def Anchor.text : Anchor → Text
  | .relative => []
  | .root => ['/']
  | .doubleRoot => ['/', '/']

/-- A path: its anchor and the names after it. -/
structure Path where
  anchor : Anchor := .relative
  names : List Text := []
  deriving DecidableEq, Repr, Inhabited

namespace Path

/-- The name of the parent directory. -/
def parentName : Text := ['.', '.']

/-- The anchor that a text starts with: three or more slashes are one. -/
def anchorOf (t : Text) : Anchor :=
  match (t.takeWhile (· == '/')).length with
  | 0 => .relative
  | 2 => .doubleRoot
  | _ => .root

/-- The names in a text: what stands between slashes, without empty names and `.`. -/
def namesOf (t : Text) : List Text :=
  (splitAtEach (· == '/') t).filter fun n => !(n == [] || n == ['.'])

/-- Reads a path. -/
def ofText (t : Text) : Path := ⟨anchorOf t, namesOf t⟩

/-- A path as it is written; the empty relative path is `.`. -/
def text (p : Path) : Text :=
  match p.anchor, p.names with
  | .relative, [] => ['.']
  | a, ns => a.text ++ joinWith ['/'] ns

/-- Whether a path does not start at the working directory. -/
def isAbsolute (p : Path) : Bool := p.anchor != .relative

/-- Whether a path can be used at all: it has no null character. -/
def isUsable (p : Path) : Bool := p.names.all fun name => !name.any (·.toNat == 0)

/-- A path one name further. -/
def child (p : Path) (name : Text) : Path := { p with names := p.names ++ [name] }

/-- A path without its last name. -/
def parent (p : Path) : Path := { p with names := p.names.dropLast }

/-- The last name of a path; empty if it has none. -/
def lastName (p : Path) : Text := p.names.getLast?.getD []

/-- The path `q` as seen from `p`. -/
def join (p q : Path) : Path := if q.isAbsolute then q else { p with names := p.names ++ q.names }

/-- Takes names in one after the other; `..` takes the last one back, and nothing at the root. -/
def collapse (names : List Text) : List Text :=
  names.foldl (fun done n => if n = parentName then done.dropLast else done ++ [n]) []

/-- The path from the root that `p` stands for, seen from the directory `directory`. -/
def resolve (directory p : Path) : Path := ⟨.root, collapse (join directory p).names⟩

/-- A path and the paths above it, nearest first, up to the anchor. -/
def ancestors (p : Path) : List Path :=
  (List.range (p.names.length + 1)).map fun k =>
    { p with names := p.names.take (p.names.length - k) }

/-- Whether a text names something directly inside a directory: it is not empty, and reading it as a
path gives back just that name. -/
def isPlainName (t : Text) : Bool := !t.isEmpty && (ofText t).lastName == t

end Path

end Signpost
