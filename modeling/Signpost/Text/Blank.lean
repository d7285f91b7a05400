import Signpost.Text.Basic
set_option autoImplicit false

/-!
# Blank characters

Blank characters separate everything else: indentation is made of them, and names, defaults and
header texts are trimmed of them.  The class holds the ASCII blanks with the four information
separators, and the space characters beyond ASCII.
-/

namespace Signpost.Text

/-- The blank characters, as ranges of code points. -/
def blankRanges : List (Nat × Nat) :=
  [(0x09, 0x0D), (0x1C, 0x20), (0x85, 0x85), (0xA0, 0xA0), (0x1680, 0x1680), (0x2000, 0x200A),
   (0x2028, 0x2029), (0x202F, 0x202F), (0x205F, 0x205F), (0x3000, 0x3000)]

/-- A blank character. -/
def isBlank (c : Char) : Bool := inRanges blankRanges c.toNat

/-- A text of blank characters only; the empty text is one. -/
def isBlankText (t : Text) : Bool := t.all isBlank

/-- A text without the blanks it starts with. -/
def trimLeft (t : Text) : Text := t.dropWhile isBlank

/-- A text without the blanks it ends with. -/
def trimRight (t : Text) : Text := dropWhileEnd isBlank t

/-- A text without the blanks at its two ends. -/
def trim (t : Text) : Text := trimRight (trimLeft t)

/-- How many blanks a line starts with; every blank character counts as one. -/
def indentation (line : Text) : Nat := (line.takeWhile isBlank).length

/-- A trimmed text, or nothing if only blanks were there. -/
def trimmed? (t : Text) : Option Text :=
  match trim t with
  | [] => none
  | c :: cs => some (c :: cs)

end Signpost.Text
