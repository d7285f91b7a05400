import Signpost.Text.Letter
set_option autoImplicit false

/-!
# Words

A word is a run of word characters: letters, numerals and the underscore.  Names in headers, the
identifier under the cursor and the last component of a call path are words.
-/

namespace Signpost.Text

/-- A character of a word. -/
def isWordChar (c : Char) : Bool := c == '_' || isLetter c || isNumeral c

/-- The word a text starts with; empty if it starts with another character. -/
def leadingWord (t : Text) : Text := t.takeWhile isWordChar

/-- The word a text ends with; empty if it ends with another character. -/
def trailingWord (t : Text) : Text := takeWhileEnd isWordChar t

end Signpost.Text
