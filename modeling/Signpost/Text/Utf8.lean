import Signpost.Text.Quoted
set_option autoImplicit false

/-!
# UTF-8

Decoding of the bytes of a file.  A byte sequence that is no text has a first place where decoding
stops, and the fault says which bytes are in the way there and why: the longest start of a valid
sequence, or the single byte that can start none.
-/

namespace Signpost.Text.Utf8

/-- Why decoding stops. -/
inductive Cause where
  /-- No character starts with this byte. -/
  | invalidStart
  /-- A byte that had to continue a character does not. -/
  | invalidContinuation
  /-- The bytes end inside a character. -/
  | unexpectedEnd
  deriving DecidableEq, Repr, Inhabited

/-- A decoding fault: the offset and the value of the first bad byte, how many bytes are bad, and
why. -/
structure Fault where
  offset : Nat
  byte : UInt8
  width : Nat
  cause : Cause
  deriving DecidableEq, Repr, Inhabited

/-- The wording of a cause. -/
def Cause.message : Cause → Text
  | .invalidStart => "invalid start byte"
  | .invalidContinuation => "invalid continuation byte"
  | .unexpectedEnd => "unexpected end of data"

/-- The wording of a fault: one bad byte is shown, several are counted. -/
def Fault.message (f : Fault) : Text :=
  if f.width = 1 then
    "'utf-8' codec can't decode byte 0x" ++ hexPadded 2 f.byte.toNat ++ " in position " ++
      ofNat f.offset ++ ": " ++ f.cause.message
  else
    "'utf-8' codec can't decode bytes in position " ++ ofNat f.offset ++ "-" ++
      ofNat (f.offset + f.width - 1) ++ ": " ++ f.cause.message

/-- How many bytes a character takes that starts with this byte; none starts with a continuation
byte, an overlong lead or a byte beyond the last plane. -/
def width? (lead : UInt8) : Option Nat :=
  let n := lead.toNat
  if n < 0x80 then some 1
  else if n < 0xC2 then none
  else if n < 0xE0 then some 2
  else if n < 0xF0 then some 3
  else if n < 0xF5 then some 4
  else none

/-- Whether `b` may be byte number `i` (from 1) of a character that starts with `lead`.  The second
byte rules out overlong forms, surrogates and code points beyond the last. -/
def continues (lead : UInt8) (i : Nat) (b : UInt8) : Bool :=
  let n := b.toNat
  let low := if i = 1 ∧ lead = 0xE0 then 0xA0 else if i = 1 ∧ lead = 0xF0 then 0x90 else 0x80
  let high := if i = 1 ∧ lead = 0xED then 0x9F else if i = 1 ∧ lead = 0xF4 then 0x8F else 0xBF
  low ≤ n && n ≤ high

/-- How many of the bytes that should continue a character of `width` bytes do so. -/
def continued (lead : UInt8) (width i : Nat) : List UInt8 → Nat
  | [] => 0
  | b :: bs => if i < width && continues lead i b then continued lead width (i + 1) bs + 1 else 0

/-- The character that a lead byte and its continuation bytes encode. -/
def assemble (lead : UInt8) (width : Nat) (rest : List UInt8) : Char :=
  let start := if width = 1 then lead.toNat
    else if width = 2 then lead.toNat % 0x20
    else if width = 3 then lead.toNat % 0x10
    else lead.toNat % 0x08
  Char.ofNat ((rest.take (width - 1)).foldl (fun n b => n * 0x40 + b.toNat % 0x40) start)

/-- Decodes the bytes from offset `pos` on; `skip` bytes of them belong to the character before. -/
def decodeFrom (pos skip : Nat) : List UInt8 → Except Fault Text
  | [] => .ok []
  | b :: bs =>
    if skip > 0 then decodeFrom (pos + 1) (skip - 1) bs
    else
      match width? b with
      | none => .error ⟨pos, b, 1, .invalidStart⟩
      | some w =>
        let n := continued b w 1 bs
        if n + 1 = w then do
          let rest ← decodeFrom (pos + 1) n bs
          .ok (assemble b w bs :: rest)
        else if n = bs.length then .error ⟨pos, b, n + 1, .unexpectedEnd⟩
        else .error ⟨pos, b, n + 1, .invalidContinuation⟩

/-- The text that the bytes encode. -/
def decode (bytes : List UInt8) : Except Fault Text := decodeFrom 0 0 bytes

/-- The bytes of a character. -/
def encodeChar (c : Char) : List UInt8 :=
  let n := c.toNat
  if n < 0x80 then [n.toUInt8]
  else if n < 0x800 then [(0xC0 + n / 0x40).toUInt8, (0x80 + n % 0x40).toUInt8]
  else if n < 0x10000 then
    [(0xE0 + n / 0x1000).toUInt8, (0x80 + n / 0x40 % 0x40).toUInt8, (0x80 + n % 0x40).toUInt8]
  else
    [(0xF0 + n / 0x40000).toUInt8, (0x80 + n / 0x1000 % 0x40).toUInt8,
     (0x80 + n / 0x40 % 0x40).toUInt8, (0x80 + n % 0x40).toUInt8]

/-- The bytes of a text. -/
def encode (t : Text) : List UInt8 := t.flatMap encodeChar

end Signpost.Text.Utf8
