import Signpost.Text.Printable
set_option autoImplicit false

/-!
# Quoted texts

How a text is shown inside a message or a log line: between single quotes, or between double quotes
when it holds a single quote and no double one.  The quote in use and the backslash are escaped,
line feed, carriage return and tab have short escapes, and every other unprintable character is
written as its code point in two, four or eight hexadecimal digits.
-/

namespace Signpost.Text

/-- The hexadecimal digits of a number, padded with zeros to a width. -/
def hexPadded (width n : Nat) : Text :=
  let digits := Nat.toDigits 16 n
  List.replicate (width - digits.length) '0' ++ digits

/-- The quote a text is shown with. -/
def chooseQuote (t : Text) : Char :=
  if t.contains '\'' && !t.contains '"' then '"' else '\''

/-- One character of a quoted text, inside the quote `q`. -/
def quotedChar (q c : Char) : Text :=
  if c = q ∨ c = '\\' then ['\\', c]
  else if c = '\n' then ['\\', 'n']
  else if c = '\r' then ['\\', 'r']
  else if c = '\t' then ['\\', 't']
  else if isPrintable c then [c]
  else if c.toNat < 0x100 then '\\' :: 'x' :: hexPadded 2 c.toNat
  else if c.toNat < 0x10000 then '\\' :: 'u' :: hexPadded 4 c.toNat
  else '\\' :: 'U' :: hexPadded 8 c.toNat

/-- A text between quotes. -/
def quoted (t : Text) : Text :=
  let q := chooseQuote t
  q :: (t.flatMap (quotedChar q) ++ [q])

end Signpost.Text
