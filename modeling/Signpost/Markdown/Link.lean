import Signpost.Markdown.Entity
import Signpost.Text.Punctuation
import Signpost.Text.Variant
set_option autoImplicit false

/-!
# Links

Where a link leads to and how that is written: destinations with or without angle brackets, titles
in quotes or parentheses, labels of references, and addresses that are links by themselves.  A
destination is kept with percent escapes for what may not stand in an address; an address that is
shown has its escapes undone.  Destinations that would run a program are refused.
-/

namespace Signpost.Markdown

open Text

/-- A blank inside a line. -/
def isSpace (c : Char) : Bool := c == ' ' || c == '\t'

/-- A text without the blanks and line breaks it starts with. -/
def skipSpacing (t : Text) : Text := t.dropWhile fun c => isSpace c || c == '\n'

/-! ## Addresses -/

/-- Undoes escapes and references; `fuel` bounds the length of the text. -/
def unescapedWithin : (fuel : Nat) → Text → Text
  | 0, t => t
  | _ + 1, [] => []
  | fuel + 1, '\\' :: c :: rest =>
    if isAsciiPunctuation c then c :: unescapedWithin fuel rest
    else '\\' :: unescapedWithin fuel (c :: rest)
  | fuel + 1, c :: rest =>
    match if c = '&' then reference? rest else none with
    | some (characters, rest) => characters ++ unescapedWithin fuel rest
    | none => c :: unescapedWithin fuel rest

/-- A text with its escapes and references undone. -/
def unescaped (t : Text) : Text := unescapedWithin t.length t

/-- A byte as a percent escape. -/
def percentByte (n : Nat) : Text :=
  let digit (d : Nat) : Char := Char.ofNat (if d < 10 then '0'.toNat + d else 'A'.toNat + (d - 10))
  ['%', digit (n / 16), digit (n % 16)]

/-- A character that may stand in an address. -/
def isAddressChar (c : Char) : Bool :=
  c.isAlphanum || [';', '/', '?', ':', '@', '&', '=', '+', '$', ',', '-', '_', '.', '!', '~', '*',
    '\'', '(', ')', '#'].contains c

/-- A character as it is written in an address. -/
def addressChar (c : Char) : Text :=
  if isAddressChar c then [c]
  else (String.utf8EncodeChar c).flatMap fun b => percentByte b.toNat

/-- A text with percent escapes for what may not stand in an address; escapes in it are kept. -/
def percentEncode : Text → Text
  | '%' :: a :: b :: rest =>
    if (Json.hexValue? a).isSome && (Json.hexValue? b).isSome then
      '%' :: a :: b :: percentEncode rest
    else addressChar '%' ++ percentEncode (a :: b :: rest)
  | c :: rest => addressChar c ++ percentEncode rest
  | [] => []

/-- A destination as it is kept. -/
def destination (t : Text) : Text := percentEncode (trim (unescaped t))

/-- The schemes of addresses that would run a program or show a file. -/
def refusedSchemes : List Text := ["vbscript:", "javascript:", "file:", "data:"]

/-- The pictures that may stand in an address themselves. -/
def pictureStarts : List Text :=
  ["data:image/gif;", "data:image/png;", "data:image/jpeg;", "data:image/webp;"]

/-- Whether a link may lead to a destination. -/
def isAllowed (destination : Text) : Bool :=
  let t := lowerAscii destination
  !refusedSchemes.any (startsWith t ·) || pictureStarts.any (startsWith t ·)

/-- The bytes of the percent escapes that a text starts with, and what follows them. -/
def percentBytes : Text → List Nat × Text
  | '%' :: a :: b :: rest =>
    match Json.hexValue? a, Json.hexValue? b with
    | some high, some low =>
      let (bytes, after) := percentBytes rest
      ((high * 16 + low) :: bytes, after)
    | _, _ => ([], '%' :: a :: b :: rest)
  | t => ([], t)

/-- A byte that stands alone: a character that has a meaning in addresses stays escaped. -/
def shownByte (n : Nat) : Text :=
  let c := Char.ofNat n
  if [';', '/', '?', ':', '@', '&', '=', '+', '$', ',', '#', '%'].contains c then percentByte n
  else [c]

/-- The character that a first byte and continuing bytes encode; `least` is the smallest code point
that needs so many bytes.  Bytes that encode none are shown as replacement characters. -/
def shownBytes (first : Nat) (continuing : List Nat) (least : Nat) : Text :=
  let n := continuing.foldl (fun n b => n * 64 + b % 64) first
  if least ≤ n && n ≤ 0x10FFFF && !inRanges [(0xD800, 0xDFFF)] n then [Char.ofNat n]
  else List.replicate (continuing.length + 1) replacement

/-- Whether a byte continues a character. -/
def continues (b : Nat) : Bool := b / 64 == 2

/-- The text that bytes encode, as an address is shown. -/
def shownAddressBytes : List Nat → Text
  | [] => []
  | b :: rest =>
    if b < 0x80 then shownByte b ++ shownAddressBytes rest
    else
      let alone := replacement :: shownAddressBytes rest
      match rest with
      | [] => alone
      | b2 :: rest2 =>
        if b / 32 == 6 && continues b2 then
          shownBytes (b % 32) [b2] 0x80 ++ shownAddressBytes rest2
        else
          match rest2 with
          | [] => alone
          | b3 :: rest3 =>
            if b / 16 == 14 && continues b2 && continues b3 then
              shownBytes (b % 16) [b2, b3] 0x800 ++ shownAddressBytes rest3
            else
              match rest3 with
              | [] => alone
              | b4 :: rest4 =>
                if b / 8 == 30 && continues b2 && continues b3 && continues b4 then
                  shownBytes (b % 8) [b2, b3, b4] 0x10000 ++ shownAddressBytes rest4
                else alone

/-- An address as it is shown; `fuel` bounds its length. -/
def shownAddressWithin : (fuel : Nat) → Text → Text
  | 0, t => t
  | _ + 1, [] => []
  | fuel + 1, c :: rest =>
    match percentBytes (c :: rest) with
    | ([], _) => c :: shownAddressWithin fuel rest
    | (bytes, after) => shownAddressBytes bytes ++ shownAddressWithin fuel after

/-- An address as it is shown: its percent escapes are undone. -/
def shownAddress (t : Text) : Text := shownAddressWithin t.length (trim t)

/-! ## The parts of a link -/

/-- Reads up to a closing angle bracket; gives what stands before it, and what follows. -/
def bracketed? : Text → Option (Text × Text)
  | '\\' :: c :: rest => (bracketed? rest).map fun (t, rest) => ('\\' :: c :: t, rest)
  | '>' :: rest => some ([], rest)
  | c :: rest =>
    if c = '<' ∨ c = '\n' then none else (bracketed? rest).map fun (t, rest) => (c :: t, rest)
  | [] => none

/-- The greatest depth of parentheses in a destination. -/
def maxParentheses : Nat := 32

/-- Reads a destination without angle brackets, inside `depth` parentheses: up to a blank or a
parenthesis that closes none of its own. -/
def bare? (depth : Nat) : Text → Option (Text × Text)
  | [] => if depth = 0 then some ([], []) else none
  | '\\' :: c :: rest =>
    if c = ' ' then if depth = 0 then some ([], '\\' :: c :: rest) else none
    else (bare? depth rest).map fun (t, rest) => ('\\' :: c :: t, rest)
  | c :: rest =>
    if c.toNat ≤ 0x20 ∨ c.toNat = 0x7F ∨ (c = ')' ∧ depth = 0) then
      if depth = 0 then some ([], c :: rest) else none
    else if c = '(' ∧ maxParentheses ≤ depth then none
    else
      (bare? (if c = '(' then depth + 1 else if c = ')' then depth - 1 else depth) rest).map
        fun (t, rest) => (c :: t, rest)

/-- Reads a destination; gives it as it is kept, and what follows. -/
def destination? (t : Text) : Option (Text × Text) :=
  match t with
  | '<' :: rest => (bracketed? rest).map fun (inner, rest) => (destination inner, rest)
  | _ =>
    (bare? 0 t).bind fun (inner, rest) =>
      if inner.isEmpty then none else some (destination inner, rest)

/-- Reads up to the mark that closes a title; gives what stands before it, and what follows. -/
def titleUpTo? (closing : Char) : Text → Option (Text × Text)
  | [] => none
  | '\\' :: c :: rest => (titleUpTo? closing rest).map fun (t, rest) => ('\\' :: c :: t, rest)
  | c :: rest =>
    if c = closing then some ([], rest)
    else if c = '(' ∧ closing = ')' then none
    else (titleUpTo? closing rest).map fun (t, rest) => (c :: t, rest)

/-- Reads a title; gives it, and what follows. -/
def title? : Text → Option (Text × Text)
  | '"' :: rest => titleUpTo? '"' rest
  | '\'' :: rest => titleUpTo? '\'' rest
  | '(' :: rest => titleUpTo? ')' rest
  | _ => none

/-- Replaces every row of blanks by one space. -/
def singleSpaced : Text → Text
  | [] => []
  | c :: cs =>
    if isBlank c then
      match singleSpaced cs with
      | ' ' :: rest => ' ' :: rest
      | rest => ' ' :: rest
    else c :: singleSpaced cs

/-- The form of a label in which references are looked up. -/
def labelKey (t : Text) : Text := sameLetters (singleSpaced (trim t))

/-! ## Definitions of references -/

/-- A label, and where links with it lead to. -/
structure Target where
  key : Text
  destination : Text
  deriving DecidableEq, Repr, Inhabited

/-- Reads a label up to its closing bracket; gives it, and what follows. -/
def definedLabel? : Text → Option (Text × Text)
  | [] => none
  | '\\' :: c :: rest => (definedLabel? rest).map fun (t, rest) => ('\\' :: c :: t, rest)
  | ']' :: rest => some ([], rest)
  | c :: rest =>
    if c = '[' then none else (definedLabel? rest).map fun (t, rest) => (c :: t, rest)

/-- What follows the end of a line, if nothing but blanks comes before it. -/
def afterLineEnd? (t : Text) : Option Text :=
  match t.dropWhile isSpace with
  | [] => some []
  | '\n' :: rest => some rest
  | _ => none

/-- What follows a title and the end of its line.  Where a title is followed by something else, and
is not empty, there is none: the line may still end before it. -/
def afterTitle? (t : Text) : Option Text :=
  let spaced := skipSpacing t
  let untitled := afterLineEnd? t
  if spaced.length = t.length then untitled
  else
    match title? spaced with
    | none => untitled
    | some (title, rest) =>
      match afterLineEnd? rest with
      | some after => some after
      | none => if title.isEmpty then none else untitled

/-- Reads the definition of a reference; gives it, and the lines that follow it.  A destination does
not go over the end of its line. -/
def definition? (t : Text) : Option (Target × Text) :=
  match t with
  | '[' :: rest =>
    (definedLabel? rest).bind fun (label, rest) =>
      match rest with
      | ':' :: rest =>
        let (line, more) := cutAt '\n' (skipSpacing rest)
        let ended := line ++ (if more.isSome then ['\n'] else [])
        (destination? ended).bind fun (destination, rest) =>
          let key := labelKey label
          if isAllowed destination && !key.isEmpty then
            (match rest with
              | [] => some (more.getD [])
              | c :: cs => afterTitle? (c :: cs ++ more.getD [])).map fun after =>
                (⟨key, destination⟩, after)
          else none
      | _ => none
  | _ => none

/-! ## Addresses as links -/

/-- Whether a text is an address with a scheme. -/
def isAddress (t : Text) : Bool :=
  match cutAt ':' t with
  | (c :: scheme, some rest) =>
    c.isAlpha && 1 ≤ scheme.length && scheme.length ≤ 31 &&
      scheme.all (fun d => d.isAlphanum || d == '+' || d == '.' || d == '-') &&
      rest.all fun d => 0x20 < d.toNat && d != '<' && d != '>'
  | _ => false

/-- Whether a text is one part of the name of a host. -/
def isHostPart (t : Text) : Bool :=
  1 ≤ t.length && t.length ≤ 63 && t.all (fun c => c.isAlphanum || c == '-') &&
    t.head?.any Char.isAlphanum && t.getLast?.any Char.isAlphanum

/-- A character of the name before the at sign of a mail address. -/
def isMailboxChar (c : Char) : Bool :=
  c.isAlphanum || ['.', '!', '#', '$', '%', '&', '\'', '*', '+', '/', '=', '?', '^', '_', '\x60',
    '\x7b', '|', '\x7d', '~', '-'].contains c

/-- Whether a text is a mail address. -/
def isMailAddress (t : Text) : Bool :=
  match cutAt '@' t with
  | (c :: name, some host) =>
    (c :: name).all isMailboxChar && (splitAtEach (· == '.') host).all isHostPart
  | _ => false

/-- Reads an address in angle brackets, from after the opening one; gives what is shown for it, and
what follows. -/
def addressLink? (t : Text) : Option (Text × Text) :=
  let url := t.takeWhile fun c => c != '<' && c != '>'
  match t.dropWhile fun c => c != '<' && c != '>' with
  | '>' :: rest =>
    if (isAddress url && isAllowed (percentEncode url)) || isMailAddress url then
      some (shownAddress url, rest)
    else none
  | _ => none

end Signpost.Markdown
