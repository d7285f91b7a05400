import Signpost.Text.Blank
import Signpost.Text.Lines
set_option autoImplicit false

/-!
# Blocks

A block is a header line with everything that belongs to it by indentation: the lines after it up
to the first non-blank line that is indented no deeper than the header.  Blank lines never end a
block.
-/

namespace Signpost.Block

open Text

/-- Whether a line stays in a block whose header is indented by `depth`. -/
def stays (depth : Nat) (line : Text) : Bool := isBlankText line || depth < indentation line

/-- The lines of the block that `header` starts before the lines `following`. -/
def linesOf (header : Text) (following : List Text) : List Text :=
  header :: following.takeWhile (stays (indentation header))

/-- The text of the block that `header` starts. -/
def text (header : Text) (following : List Text) : Text := unlines (linesOf header following)

/-- The text of the block whose header is line `start`.  A negative `start` counts from the end, for
the header and again for the line after it: the lines that follow the last line, `-1`, start with
line `0`. -/
def at? (ls : List Text) (start : Int) : Option Text :=
  let place (i : Int) : Int := if i < 0 then i + ls.length else i
  if place start < 0 then none
  else
    match ls[(place start).toNat]? with
    | none => none
    | some header => some (text header (ls.drop (place (start + 1)).toNat))

end Signpost.Block
