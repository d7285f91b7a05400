import Signpost.Text.Word
set_option autoImplicit false

/-!
# Tokens of a line

The identifier at a cursor, and the dotted path to the left of an identifier.
-/

namespace Signpost.Query

open Text

/-- A stretch of a line, from offset `start` up to offset `stop`. -/
structure Span where
  start : Nat
  stop : Nat
  deriving DecidableEq, Repr, Inhabited

/-- The words of a text that starts at offset `offset`, in order.  `begun` is where the word begins
that the text continues, if it continues one. -/
def wordsFrom (offset : Nat) (begun : Option Nat) : Text → List Span
  | [] => match begun with | none => [] | some s => [⟨s, offset⟩]
  | c :: cs =>
    if isWordChar c then wordsFrom (offset + 1) (some (begun.getD offset)) cs
    else
      (match begun with | none => [] | some s => [⟨s, offset⟩]) ++ wordsFrom (offset + 1) none cs

/-- The words of a line. -/
def words (line : Text) : List Span := wordsFrom 0 none line

/-- The first span that a column touches.  Spans come in order, so the search ends at the first that
starts beyond the column. -/
def spanAt (column : Int) : List Span → Option Span
  | [] => none
  | s :: rest =>
    if (s.start : Int) ≤ column ∧ column ≤ s.stop then some s
    else if column < s.start then none
    else spanAt column rest

/-- The word under the cursor or ending right before it. -/
def wordAt (line : Text) (column : Int) : Option Span := spanAt column (words line)

/-- The text of a span. -/
def Span.text (s : Span) (line : Text) : Text := (line.take s.stop).drop s.start

/-- A character of a dotted path: an ASCII letter or digit, the underscore or the dot. -/
def isPathChar (c : Char) : Bool := c.isAlphanum || c == '_' || c == '.'

/-- The dotted path that a text ends with, without its trailing dots. -/
def contextOf (t : Text) : Text := dropWhileEnd (· == '.') (takeWhileEnd isPathChar t)

/-- A path without one trailing dot or opening parenthesis. -/
def withoutTrigger (path : Text) : Text :=
  match path.reverse with
  | c :: cs => if c = '.' ∨ c = '(' then cs.reverse else path
  | [] => []

/-- A text without one line feed at its end. -/
def withoutFinalBreak (t : Text) : Text :=
  match t.reverse with
  | '\n' :: cs => cs.reverse
  | _ => t

/-- Splits a call path into the path of its context and its last word.  A dot or an opening
parenthesis at the end goes first, and the last word may stand before a final line feed. -/
def splitPath (path : Text) : Text × Text :=
  let t := withoutFinalBreak (withoutTrigger path)
  (contextOf (dropWhileEnd isWordChar t), trailingWord t)

end Signpost.Query
