import Signpost.Markdown.Line
import Signpost.Text.Width
set_option autoImplicit false

/-!
# Tables on the console

Columns are as wide as their widest text, with two spaces between them.  A line stands below the
first row, and an empty line on both sides of the table.
-/

namespace Signpost.Console

open Text Markdown

/-- A cell: its lines. -/
abbrev Cell := List Text

/-- A text with spaces after it, up to a width. -/
def padded (columns : Nat) (t : Text) : Text := t ++ List.replicate (columns - width t) ' '

/-- A text in the middle of so many columns. -/
def centered (columns : Nat) (t : Text) : Text :=
  let kept := trimRight t
  List.replicate ((columns - width kept) / 2) ' ' ++ kept

/-- A text at the end of so many columns. -/
def rightward (columns : Nat) (t : Text) : Text :=
  let kept := trimRight t
  List.replicate (columns - width kept) ' ' ++ kept

/-- A text on one side of so many columns. -/
def placed (side : Side) (columns : Nat) (t : Text) : Text :=
  match side with
  | .left => t
  | .center => centered columns t
  | .right => rightward columns t

/-- The columns that a cell takes. -/
def Cell.width (c : Cell) : Nat := (c.map Text.width).foldl max 0

/-- A column of a table: the side of its text, and its width with the space after it. -/
structure Column where
  side : Side
  /-- The columns for its text. -/
  inner : Nat
  /-- The columns that it takes. -/
  outer : Nat
  deriving DecidableEq, Repr, Inhabited

/-- The columns of a table with rows of cells.  The last one has no space after it. -/
def columnsOf (rows : List (List Cell)) : List Side → List Column
  | [] => []
  | side :: rest =>
    let inner := (rows.map fun row => (row.head?.map Cell.width).getD 0).foldl max 0
    let outer := inner + if rest.isEmpty then 0 else 1
    ⟨side, inner, max 1 outer⟩ :: columnsOf (rows.map (·.drop 1)) rest

/-- The lines of a row.  In the first row the cells stand on its last line. -/
def rowLines (isHead : Bool) (columns : List Column) (row : List Cell) : List Text :=
  let height := (row.map List.length).foldl max 1
  let filled : List (List Text) := (columns.zip row).map fun (column, cell) =>
    let missing := List.replicate (height - cell.length) ([] : Text)
    let lines := cell.map (placed column.side column.inner)
    ((if isHead then missing ++ lines else lines ++ missing).map (padded column.outer))
  (List.range height).map fun i =>
    ' ' :: joinWith [' '] (filled.map fun lines => lines.getD i [])

/-- The lines of a table. -/
def sheet (sides : List Side) (head : List Cell) (rows : List (List Cell)) : List Text :=
  let columns := columnsOf (head :: rows) sides
  let across := columns.foldl (fun n column => n + column.outer) (columns.length - 1)
  ([] :: rowLines true columns head) ++
    (' ' :: List.replicate across '─') :: (rows.flatMap (rowLines false columns) ++ [[]])

end Signpost.Console
