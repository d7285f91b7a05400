import Signpost.Value
set_option autoImplicit false

/-!
# JSON

Structured values in environment variables are read as JSON, and the command line can answer in it.
`Json.parse` accepts exactly one value with blanks around it; of two members with the same name the
later one counts.  Numbers that are not whole, halves of characters, and more than `maxLevels`
levels are not followed here.  `Json.render` writes a value on one line, with a space after each
comma and colon, and every character beyond printable ASCII as an escape.
-/

namespace Signpost.Json

open Text

/-! ## Reading -/

/-- A blank between JSON tokens. -/
def isSpace (c : Char) : Bool := c == ' ' || c == '\t' || c == '\n' || c == '\r'

/-- The text from the next token on. -/
def skipSpace (t : Text) : Text := t.dropWhile isSpace

/-- The value of a hexadecimal digit. -/
def hexValue? (c : Char) : Option Nat :=
  if c.isDigit then some (c.toNat - '0'.toNat)
  else if 'a' ≤ c ∧ c ≤ 'f' then some (c.toNat - 'a'.toNat + 10)
  else if 'A' ≤ c ∧ c ≤ 'F' then some (c.toNat - 'A'.toNat + 10)
  else none

/-- The number that four hexadecimal digits write. -/
def fourHex? (a b c d : Char) : Option Nat := do
  let a ← hexValue? a
  let b ← hexValue? b
  let c ← hexValue? c
  let d ← hexValue? d
  return ((a * 16 + b) * 16 + c) * 16 + d

/-- The character that an escape of one letter stands for. -/
def escape? (c : Char) : Option Char :=
  Table.get? [('"', '"'), ('\\', '\\'), ('/', '/'), ('b', Char.ofNat 8), ('f', Char.ofNat 12),
    ('n', '\n'), ('r', '\r'), ('t', '\t')] c

/-- Whether a number is the first half of a surrogate pair. -/
def isHighHalf (n : Nat) : Bool := 0xD800 ≤ n && n < 0xDC00

/-- Whether a number is the second half of a surrogate pair. -/
def isLowHalf (n : Nat) : Bool := 0xDC00 ≤ n && n < 0xE000

/-- Puts the character with a code point before a string. -/
def withCoded (n : Nat) (read : Except Unread (Text × Text)) : Except Unread (Text × Text) :=
  if n.isValidChar then read.map fun (s, rest) => (Char.ofNat n :: s, rest) else .error .unfollowed

/-- Reads a string from after its opening quote; gives it and what follows its closing quote. -/
def string : Text → Except Unread (Text × Text)
  | '"' :: rest => .ok ([], rest)
  | '\\' :: 'u' :: a :: b :: c :: d :: '\\' :: 'u' :: e :: f :: g :: h :: rest =>
    match fourHex? a b c d, fourHex? e f g h with
    | some high, some low =>
      if isHighHalf high && isLowHalf low then
        withCoded (0x10000 + (high - 0xD800) * 0x400 + (low - 0xDC00)) (string rest)
      else withCoded high (string ('\\' :: 'u' :: e :: f :: g :: h :: rest))
    | some n, none => withCoded n (string ('\\' :: 'u' :: e :: f :: g :: h :: rest))
    | none, _ => .error .malformed
  | '\\' :: 'u' :: a :: b :: c :: d :: rest =>
    (Unread.orMalformed (fourHex? a b c d)).bind fun n => withCoded n (string rest)
  | '\\' :: e :: rest =>
    (Unread.orMalformed (escape? e)).bind fun c => (string rest).map fun (s, rest) => (c :: s, rest)
  | c :: rest =>
    if c.toNat < 0x20 || c == '\\' then .error .malformed
    else (string rest).map fun (s, rest) => (c :: s, rest)
  | [] => .error .malformed

/-- Whether a number goes on with digits after a point, or with an exponent. -/
def goesOn : Text → Bool
  | '.' :: c :: _ => c.isDigit
  | e :: sign :: c :: _ =>
    (e == 'e' || e == 'E') && (sign.isDigit || ((sign == '+' || sign == '-') && c.isDigit))
  | [e, c] => (e == 'e' || e == 'E') && c.isDigit
  | _ => false

/-- Reads a number without sign: no zero before other digits.  One that is not whole is not followed
here, and a whole one has not too many digits. -/
def digits (t : Text) : Except Unread (Nat × Text) :=
  let ds := match t.takeWhile Char.isDigit with
    | '0' :: _ => ['0']
    | ds => ds
  let rest := t.drop ds.length
  if ds.isEmpty then .error .malformed
  else if goesOn rest then .error .unfollowed
  else if maxDecimalDigits < ds.length then .error .malformed
  else .ok (ds.foldl (fun n c => n * 10 + (c.toNat - '0'.toNat)) 0, rest)

/-- The words for what is no number, and for infinity. -/
def numberWords : List Text := ["NaN", "Infinity", "-Infinity"]

/-- Reads a number. -/
def number (t : Text) : Except Unread (Value × Text) :=
  if numberWords.any (startsWith t) then .error .unfollowed
  else
    match t with
    | '-' :: t => (digits t).map fun (n, rest) => (.int (-(n : Int)), rest)
    | t => (digits t).map fun (n, rest) => (.int (n : Int), rest)

mutual

/-- Reads a value from its first character on; `room` levels may be below it. -/
def value : Nat → (room : Nat) → Text → Except Unread (Value × Text)
  | 0, _, _ => .error .malformed
  | fuel + 1, room, t =>
    match t with
    | '"' :: rest => (string rest).map fun (s, rest) => (.str s, rest)
    | '[' :: rest =>
      match room, skipSpace rest with
      | 0, _ => .error .unfollowed
      | _, ']' :: rest => .ok (.list [], rest)
      | room + 1, rest => items fuel room [] rest
    | '\x7b' :: rest =>
      match room, skipSpace rest with
      | 0, _ => .error .unfollowed
      | _, '\x7d' :: rest => .ok (.map [], rest)
      | room + 1, rest => members fuel room [] rest
    | 't' :: 'r' :: 'u' :: 'e' :: rest => .ok (.bool true, rest)
    | 'f' :: 'a' :: 'l' :: 's' :: 'e' :: rest => .ok (.bool false, rest)
    | 'n' :: 'u' :: 'l' :: 'l' :: rest => .ok (.null, rest)
    | _ => number t

/-- Reads items up to the end of their list. -/
def items : Nat → (room : Nat) → List Value → Text → Except Unread (Value × Text)
  | 0, _, _, _ => .error .malformed
  | fuel + 1, room, done, t =>
    (value fuel room t).bind fun (v, rest) =>
      match skipSpace rest with
      | ',' :: rest => items fuel room (done ++ [v]) (skipSpace rest)
      | ']' :: rest => .ok (.list (done ++ [v]), rest)
      | _ => .error .malformed

/-- Reads members up to the end of their object. -/
def members : Nat → (room : Nat) → Entries → Text → Except Unread (Value × Text)
  | 0, _, _, _ => .error .malformed
  | fuel + 1, room, done, t =>
    match t with
    | '"' :: rest =>
      (string rest).bind fun (name, rest) =>
        match skipSpace rest with
        | ':' :: rest =>
          (value fuel room (skipSpace rest)).bind fun (v, rest) =>
            let done := Table.insert done (.str name) v
            match skipSpace rest with
            | ',' :: rest => members fuel room done (skipSpace rest)
            | '\x7d' :: rest => .ok (.map done, rest)
            | _ => .error .malformed
        | _ => .error .malformed
    | _ => .error .malformed

end

/-- The value that a text writes. -/
def parse (t : Text) : Except Unread Value :=
  (value (t.length + 1) maxLevels (skipSpace t)).bind fun (v, rest) =>
    if (skipSpace rest).isEmpty then .ok v else .error .malformed

/-! ## Writing -/

/-- One character of a string. -/
def renderChar (c : Char) : Text :=
  if c = '"' then ['\\', '"']
  else if c = '\\' then ['\\', '\\']
  else if c = '\n' then ['\\', 'n']
  else if c = '\r' then ['\\', 'r']
  else if c = '\t' then ['\\', 't']
  else if c.toNat = 8 then ['\\', 'b']
  else if c.toNat = 12 then ['\\', 'f']
  else if 0x20 ≤ c.toNat ∧ c.toNat < 0x7F then [c]
  else if c.toNat < 0x10000 then '\\' :: 'u' :: hexPadded 4 c.toNat
  else
    let n := c.toNat - 0x10000
    '\\' :: 'u' :: hexPadded 4 (0xD800 + n / 0x400) ++
      '\\' :: 'u' :: hexPadded 4 (0xDC00 + n % 0x400)

/-- A string between quotes. -/
def renderString (t : Text) : Text := '"' :: (t.flatMap renderChar ++ ['"'])

/-- The missing value. -/
def nullWord : Text := "null"

/-- A truth value. -/
def boolWord (b : Bool) : Text := if b then "true" else "false"

/-- A key as the name of a member. -/
def renderKey : Key → Text
  | .null => renderString nullWord
  | .bool b => renderString (boolWord b)
  | .int i => renderString (ofInt i)
  | .str t => renderString t

mutual

/-- A value on one line. -/
def render : Value → Text
  | .null => nullWord
  | .bool b => boolWord b
  | .int i => ofInt i
  | .str t => renderString t
  | .list vs => '[' :: (joinWith [',', ' '] (renderItems vs) ++ [']'])
  | .map es => '\x7b' :: (joinWith [',', ' '] (renderMembers es) ++ ['\x7d'])

/-- The items of a list. -/
def renderItems : List Value → List Text
  | [] => []
  | v :: vs => render v :: renderItems vs

/-- The members of an object. -/
def renderMembers : List (Key × Value) → List Text
  | [] => []
  | (k, v) :: es => (renderKey k ++ ':' :: ' ' :: render v) :: renderMembers es

end

end Signpost.Json
