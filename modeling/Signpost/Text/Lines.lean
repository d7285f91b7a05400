import Signpost.Text.Basic
set_option autoImplicit false

/-!
# Lines

A text is cut into lines at every line break: the line feed, the carriage return (together with a
line feed right after it), the vertical and form feeds, three of the information separators and the
line and paragraph separators beyond ASCII.  A final break ends the last line and starts no new one.
-/

namespace Signpost.Text

/-- A character that ends a line. -/
def isLineBreak (c : Char) : Bool :=
  inRanges [(0x0A, 0x0D), (0x1C, 0x1E), (0x85, 0x85), (0x2028, 0x2029)] c.toNat

/-- The lines of a text, without their breaks. -/
def lines : Text → List Text
  | [] => []
  | '\r' :: '\n' :: cs => [] :: lines cs
  | c :: cs =>
    if isLineBreak c then [] :: lines cs
    else
      match lines cs with
      | [] => [[c]]
      | line :: rest => (c :: line) :: rest

/-- Lines joined by single line feeds. -/
def unlines (ls : List Text) : Text := joinWith ['\n'] ls

/-- A text as it is read from a file: a carriage return, alone or before a line feed, is a line
feed. -/
def plainBreaks : Text → Text
  | [] => []
  | '\r' :: '\n' :: cs => '\n' :: plainBreaks cs
  | '\r' :: cs => '\n' :: plainBreaks cs
  | c :: cs => c :: plainBreaks cs

end Signpost.Text
