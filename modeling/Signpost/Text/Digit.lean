import Signpost.Text.Blank
set_option autoImplicit false

/-!
# Decimal numbers

A number may be written with the decimal digits of any script.  Every script has its ten digits in a
row, so a table of the zeros is enough.  A number may have a sign, blanks around it, and single
underscores between its digits.  There is a limit to the number of digits.
-/

namespace Signpost.Text

/-- The digit zero of every script. -/
def zeros : List Nat :=
  [0x30, 0x660, 0x6F0, 0x7C0, 0x966, 0x9E6, 0xA66, 0xAE6, 0xB66, 0xBE6, 0xC66, 0xCE6, 0xD66, 0xDE6,
   0xE50, 0xED0, 0xF20, 0x1040, 0x1090, 0x17E0, 0x1810, 0x1946, 0x19D0, 0x1A80, 0x1A90, 0x1B50,
   0x1BB0, 0x1C40, 0x1C50, 0xA620, 0xA8D0, 0xA900, 0xA9D0, 0xA9F0, 0xAA50, 0xABF0, 0xFF10, 0x104A0,
   0x10D30, 0x11066, 0x110F0, 0x11136, 0x111D0, 0x112F0, 0x11450, 0x114D0, 0x11650, 0x116C0,
   0x11730, 0x118E0, 0x11950, 0x11C50, 0x11D50, 0x11DA0, 0x16A60, 0x16AC0, 0x16B50, 0x1D7CE,
   0x1D7D8, 0x1D7E2, 0x1D7EC, 0x1D7F6, 0x1E140, 0x1E2F0, 0x1E950, 0x1FBF0]

/-- The value of a decimal digit. -/
def digitValue? (c : Char) : Option Nat :=
  (zeros.find? fun z => z ≤ c.toNat && c.toNat ≤ z + 9).map (c.toNat - ·)

/-- The number that digits write, after digits that wrote `n`; a single underscore may stand between
two digits. -/
def digitsValue? (n : Nat) (afterDigit : Bool) : Text → Option Nat
  | [] => if afterDigit then some n else none
  | c :: cs =>
    match digitValue? c with
    | some d => digitsValue? (n * 10 + d) true cs
    | none => if c == '_' && afterDigit then digitsValue? n false cs else none

/-- A blank that may stand around a number: any but the four information separators. -/
def isNumberBlank (c : Char) : Bool := isBlank c && !inRanges [(0x1C, 0x1F)] c.toNat

/-- The whole number without sign that a text writes. -/
def natural? (t : Text) : Option Nat :=
  if maxDecimalDigits < (t.filter (· != '_')).length then none else digitsValue? 0 false t

/-- The whole number that a text writes. -/
def integer? (t : Text) : Option Int :=
  match dropWhileEnd isNumberBlank (t.dropWhile isNumberBlank) with
  | '-' :: ds => (natural? ds).map fun n => -(n : Int)
  | '+' :: ds => (natural? ds).map fun n => (n : Int)
  | ds => (natural? ds).map fun n => (n : Int)

end Signpost.Text
