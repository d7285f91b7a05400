import Signpost.Text.Utf8
set_option autoImplicit false

/-!
# Encodings

How a text becomes the bytes of a file.  Every encoding here is strict: a text with a character that
the encoding does not have has no bytes at all.
-/

namespace Signpost.Text

/-- The encodings that a log file may be in, as the user's surroundings have it. -/
inductive Encoding where
  | utf8
  | latin1
  | ascii
  deriving DecidableEq, Repr, Inhabited

namespace Encoding

/-- The bytes of a text in an encoding that has the first `size` characters, each as one byte. -/
def bytewise? (size : Nat) (t : Text) : Option (List UInt8) :=
  if t.all (·.toNat < size) then some (t.map (·.toNat.toUInt8)) else none

/-- The bytes of a text, if the encoding has all its characters. -/
def encode? : Encoding → Text → Option (List UInt8)
  | .utf8, t => some (Utf8.encode t)
  | .latin1, t => bytewise? 0x100 t
  | .ascii, t => bytewise? 0x80 t

end Encoding

end Signpost.Text
