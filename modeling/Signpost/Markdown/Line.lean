import Signpost.Markdown.Html
import Signpost.Text.Lines
set_option autoImplicit false

/-!
# Lines of a document

A line is what a container has left of it: the blanks before its content, and the content.  Columns
are counted with tab stops at every fourth one.  Containers take their part of the blanks away by
moving the left edge; a line whose indentation is negative continues a paragraph from before.
-/

namespace Signpost.Markdown

open Text

/-- A line as the innermost container sees it. -/
structure Line where
  /-- The blanks before the content; what containers have taken counts as spaces. -/
  lead : Text
  /-- The column where the content starts. -/
  indent : Int
  /-- The column from which tab stops are counted. -/
  base : Nat := 0
  /-- The content. -/
  body : Text
  deriving DecidableEq, Repr, Inhabited

/-- The column after a blank. -/
def columnAfter (base column : Nat) (c : Char) : Nat :=
  if c = '\t' then column + (4 - (column + base) % 4) else column + 1

/-- The column after blanks. -/
def columnAfterAll (base column : Nat) (blanks : Text) : Nat :=
  blanks.foldl (columnAfter base) column

namespace Line

/-- A line of a text. -/
def ofText (t : Text) : Line :=
  let lead := t.takeWhile fun c => c == ' ' || c == '\t'
  { lead, indent := columnAfterAll 0 0 lead, body := t.drop lead.length }

/-- Whether a line has no content. -/
def isEmpty (l : Line) : Bool := l.body.isEmpty

/-- What is left of blanks from a column on; a tab that reaches over it leaves spaces. -/
def blanksFrom (base wanted : Nat) : (column : Nat) → Text → Text
  | column, [] => List.replicate (column - wanted) ' '
  | column, c :: cs =>
    if column < wanted then blanksFrom base wanted (columnAfter base column c) cs
    else List.replicate (column - wanted) ' ' ++ c :: cs

/-- The text of a line from a column on. -/
def textFrom (column : Nat) (l : Line) : Text := blanksFrom l.base column 0 l.lead ++ l.body

/-- A line as it is inside the quotation that its first character marks.  One blank after the mark
belongs to the mark; of a tab, one column does. -/
def unquoted? (l : Line) : Option Line :=
  match l.body with
  | '>' :: rest =>
    let start := l.indent.toNat + 1
    let isSpaced := match rest with
      | c :: _ => c == ' ' || c == '\t'
      | [] => false
    let isCut := match rest with
      | '\t' :: _ => (l.base + start) % 4 != 3
      | _ => false
    let inner := if isSpaced && !isCut then rest.drop 1 else rest
    let first := if isSpaced && !isCut then start + 1 else start
    let lead := inner.takeWhile fun c => c == ' ' || c == '\t'
    let last := columnAfterAll (l.base + if isCut then 1 else 0) first lead
    some
      { lead
        indent := last - first
        base := start + if isSpaced then 1 else 0
        body := inner.drop lead.length }
  | _ => none

end Line

/-! ## What a line may be -/

/-- A line of hyphens, stars or underscores, three at least. -/
def isRule (t : Text) : Bool :=
  match t with
  | [] => false
  | c :: _ =>
    (c == '*' || c == '-' || c == '_') && t.all (fun d => d == c || d == ' ' || d == '\t') &&
      3 ≤ t.count c

/-- The mark that opens a fence: its character and length. -/
structure Fence where
  symbol : Char
  length : Nat
  deriving DecidableEq, Repr, Inhabited

/-- The fence that a line opens.  After backticks no other backtick may follow. -/
def Fence.open? (t : Text) : Option Fence :=
  match t with
  | [] => none
  | c :: _ =>
    let length := (t.takeWhile (· == c)).length
    if (c = '\x60' ∨ c = '~') ∧ 3 ≤ length ∧ (c = '~' ∨ !(t.drop length).contains c) then
      some ⟨c, length⟩
    else none

/-- Whether a line closes a fence. -/
def Fence.isClosedBy (f : Fence) (t : Text) : Bool :=
  let length := (t.takeWhile (· == f.symbol)).length
  f.length ≤ length && (t.drop length).all fun c => c == ' ' || c == '\t'

/-- The mark of an item of a list. -/
structure Bullet where
  /-- What the mark ends with; all marks of a list end alike. -/
  symbol : Char
  /-- The number, in a numbered list. -/
  number : Option Nat
  /-- The length of the mark. -/
  length : Nat
  deriving DecidableEq, Repr, Inhabited

/-- Whether the content of an item may start here: after a blank, or not at all. -/
def startsItem (t : Text) : Bool :=
  match t with
  | [] => true
  | c :: _ => c == ' ' || c == '\t'

/-- The greatest number of digits in the mark of an item. -/
def maxBulletDigits : Nat := 9

/-- The mark of the item that a line starts. -/
def Bullet.of? (t : Text) : Option Bullet :=
  let digits := t.takeWhile Char.isDigit
  match digits, t.drop digits.length with
  | [], c :: rest =>
    if (c = '*' ∨ c = '-' ∨ c = '+') ∧ startsItem rest then some ⟨c, none, 1⟩ else none
  | _ :: _, c :: rest =>
    if (c = '.' ∨ c = ')') ∧ digits.length ≤ maxBulletDigits ∧ startsItem rest then
      let number := digits.foldl (fun n d => n * 10 + (d.toNat - '0'.toNat)) 0
      some ⟨c, some number, digits.length + 1⟩
    else none
  | _, [] => none

/-- The heading that a line is: its level and content.  Number signs at the end, after a blank, do
not belong to it. -/
def heading? (t : Text) : Option (Nat × Text) :=
  let level := (t.takeWhile (· == '#')).length
  let rest := t.drop level
  if 1 ≤ level ∧ level ≤ 6 ∧ startsItem rest then
    let body := dropWhileEnd (fun c => c == ' ' || c == '\t') rest
    let stem := dropWhileEnd (· == '#') body
    some (level, trim (if stem.getLast?.any (fun c => c == ' ' || c == '\t') then stem else body))
  else none

/-- The level of the heading that a line underlines. -/
def underline? (t : Text) : Option Nat :=
  match t with
  | [] => none
  | c :: _ =>
    if (c = '-' ∨ c = '=') ∧ (t.dropWhile (· == c)).all (fun d => d == ' ' || d == '\t') then
      some (if c = '=' then 1 else 2)
    else none

/-! ## Rows of a table -/

/-- On which side the text of a column stands. -/
inductive Side where
  | left
  | center
  | right
  deriving DecidableEq, Repr, Inhabited

/-- Cuts a row at its bars; a bar after a backslash is a character of its cell.  `escaped` tells
whether a backslash comes right before. -/
def cellsFrom (current : Text) (escaped : Bool) : Text → List Text
  | [] => [current.reverse]
  | c :: cs =>
    if c = '|' then
      if escaped then cellsFrom (c :: current.drop 1) false cs
      else current.reverse :: cellsFrom [] false cs
    else cellsFrom (c :: current) (c == '\\') cs

/-- The cells of a row; bars at its ends have no cell outside them. -/
def cells (t : Text) : List Text :=
  let all := cellsFrom [] false (trim t)
  let all := match all with
    | [] :: rest => rest
    | all => all
  (if all.getLast? = some [] then all.dropLast else all).map trim

/-- The column that hyphens in the second row of a table stand for; colons say where its text
stands. -/
def side? (t : Text) : Option Side :=
  let starts := t.head? = some ':'
  let ends := t.getLast? = some ':'
  let inner := (if starts then t.drop 1 else t)
  let inner := (if ends then inner.dropLast else inner)
  if 1 ≤ inner.length ∧ inner.all (· == '-') then
    some (if ends then (if starts then .center else .right) else .left)
  else none

/-- The columns that the second row of a table declares. -/
def sides? (t : Text) : Option (List Side) :=
  let isRowChar (c : Char) : Bool := c == '|' || c == '-' || c == ':' || c == ' ' || c == '\t'
  match t with
  | a :: b :: _ =>
    if t.all isRowChar && !startsItem t && !(a == '-' && startsItem [b]) then
      let parts := (splitAtEach (· == '|') (trim t)).map trim
      let parts := match parts with
        | [] :: rest => rest
        | parts => parts
      (if parts.getLast? = some [] then parts.dropLast else parts).mapM side?
    else none
  | _ => none

end Signpost.Markdown
