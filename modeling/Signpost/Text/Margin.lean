import Signpost.Text.Blank
set_option autoImplicit false

/-!
# Margins

A description is written inside a block and indented with it.  `withoutMargin` takes that
indentation away: tabs become spaces, the first line is trimmed on the left, the smallest
indentation of the other non-blank lines is cut off all of them, and empty lines go at both ends.
-/

namespace Signpost.Text

/-- The distance between tab stops in a description. -/
def tabWidth : Nat := 8

/-- Replaces each tab by spaces up to the next tab stop, from column `column` on; tab stops are at
every `stop` columns.  The column starts again after a line feed or a carriage return. -/
def expandTabsFrom (stop column : Nat) : Text → Text
  | [] => []
  | '\t' :: cs =>
    let width := stop - column % stop
    List.replicate width ' ' ++ expandTabsFrom stop (column + width) cs
  | c :: cs =>
    c :: expandTabsFrom stop (if c = '\n' ∨ c = '\r' then 0 else column + 1) cs

/-- A text with its tabs replaced by spaces. -/
def expandTabs (stop : Nat) (t : Text) : Text := expandTabsFrom stop 0 t

/-- The smallest indentation of the non-blank lines, if there is a non-blank line. -/
def margin? (ls : List Text) : Option Nat :=
  ((ls.filter fun l => !isBlankText l).map indentation).min?

/-- A text without the indentation that its lines share. -/
def withoutMargin (t : Text) : Text :=
  match splitAtEach (· == '\n') (expandTabs tabWidth t) with
  | [] => []
  | first :: others =>
    let cut := (margin? others).getD 0
    let kept := (trimLeft first :: others.map (·.drop cut)).dropWhile (·.isEmpty)
    joinWith ['\n'] (kept.reverse.dropWhile (·.isEmpty)).reverse

end Signpost.Text
