import Signpost.Json
import Signpost.Text.Blank
import Signpost.Text.Word
set_option autoImplicit false

/-!
# Payloads of tags

A tag that names an action may carry data after an equals sign: the name of what is to be called,
arguments in brackets, or both.  Arguments are written as numbers, strings, the three constant
words, an ellipsis, tuples, sets and maps.  What the data is does not matter here, only whether it
can be read.
-/

namespace Signpost.Console.Payload

open Text

/-- What a piece of data is, as far as it matters for the pieces around it. -/
inductive Shape where
  /-- A number without sign, real or imaginary. -/
  | number (imaginary : Bool)
  /-- A number with a sign. -/
  | signed (imaginary : Bool)
  /-- Anything else that may be a key or the member of a set. -/
  | fixed
  /-- A set or a map, or a tuple that holds one. -/
  | loose
  deriving DecidableEq, Repr, Inhabited

/-- Whether a piece of data may be a key. -/
def Shape.isKey : Shape → Bool
  | .loose => false
  | _ => true

/-- A piece of data and the text after it. -/
abbrev Read := Option (Shape × Text)

/-- Skips blanks and comments; line breaks too, if `broken`. -/
def skip (broken : Bool) (inComment : Bool) : Text → Text
  | [] => []
  | c :: cs =>
    if c = '\n' then if broken then skip broken false cs else c :: cs
    else if inComment || c = '#' then skip broken true cs
    else if c = ' ' || c = '\t' || c.toNat = 12 then skip broken false cs
    else c :: cs

/-! ## Numbers -/

/-- Digits of a number: at least one, with single underscores between them.  Gives them without the
underscores, and the text after them. -/
def digits? (isDigit : Char → Bool) : (afterDigit : Bool) → Text → Option (Text × Text)
  | afterDigit, [] => if afterDigit then some ([], []) else none
  | afterDigit, c :: cs =>
    if isDigit c then (digits? isDigit true cs).map fun (ds, rest) => (c :: ds, rest)
    else if c = '_' then if afterDigit then digits? isDigit false cs else none
    else if afterDigit then some ([], c :: cs)
    else none

/-- The text after an exponent, if there is one. -/
def afterExponent? (t : Text) : Option Text :=
  match t with
  | e :: rest =>
    if e = 'e' || e = 'E' then
      let unsigned := match rest with
        | '+' :: rest => rest
        | '-' :: rest => rest
        | rest => rest
      (digits? Char.isDigit false unsigned).map Prod.snd
    else none
  | [] => none

/-- The end of a number: an imaginary one has a `j`, and no name may follow. -/
def numberEnd (t : Text) : Read :=
  let free (rest : Text) : Bool := !(rest.head?.any isWordChar)
  match t with
  | c :: rest =>
    if c = 'j' || c = 'J' then if free rest then some (.number true, rest) else none
    else if free t then some (.number false, t)
    else none
  | [] => some (.number false, [])

/-- A number in another base, from after its mark on. -/
def based (isDigit : Char → Bool) (t : Text) : Read :=
  let unmarked := match t with
    | '_' :: rest => rest
    | rest => rest
  (digits? isDigit false unmarked).bind fun (_, rest) =>
    if rest.head?.any isWordChar then none else some (.number false, rest)

/-- The end of a decimal number after its whole part.  Without a fraction or an exponent, only zeros
may follow a leading zero. -/
def decimalEnd (whole rest : Text) : Read :=
  let fraction := match rest with
    | '.' :: more => some (((digits? Char.isDigit false more).map Prod.snd).getD more)
    | _ => none
  match fraction with
  | some rest => numberEnd ((afterExponent? rest).getD rest)
  | none =>
    match afterExponent? rest with
    | some rest => numberEnd rest
    | none =>
      (numberEnd rest).bind fun (shape, rest) =>
        if shape = .number true then some (shape, rest)
        else if whole.head? = some '0' && !whole.all (· == '0') then none
        else if maxDecimalDigits < whole.length then none
        else some (shape, rest)

/-- Reads a number. -/
def number (t : Text) : Read :=
  match t with
  | '.' :: rest =>
    (digits? Char.isDigit false rest).bind fun (_, rest) =>
      numberEnd ((afterExponent? rest).getD rest)
  | '0' :: base :: rest =>
    if base = 'x' || base = 'X' then based (fun c => (Json.hexValue? c).isSome) rest
    else if base = 'o' || base = 'O' then based (fun c => '0' ≤ c && c ≤ '7') rest
    else if base = 'b' || base = 'B' then based (fun c => c = '0' || c = '1') rest
    else (digits? Char.isDigit false t).bind fun (whole, rest) => decimalEnd whole rest
  | _ => (digits? Char.isDigit false t).bind fun (whole, rest) => decimalEnd whole rest

/-! ## Strings -/

/-- What the letters before a quote say about a string. -/
structure StringKind where
  /-- Whether a backslash is a character like any other. -/
  raw : Bool := false
  /-- Whether it stands for bytes. -/
  bytes : Bool := false
  deriving DecidableEq, Repr, Inhabited

/-- The kinds of strings, by the letters before the quote. -/
def stringKinds : List (Text × StringKind) :=
  [([], {}), ("u", {}), ("r", { raw := true }), ("b", { bytes := true }),
   ("br", { raw := true, bytes := true }), ("rb", { raw := true, bytes := true })]

/-- The number that hexadecimal digits write. -/
def hexNumber? (ds : Text) : Option Nat :=
  (ds.mapM Json.hexValue?).map fun vs => vs.foldl (fun n v => n * 16 + v) 0

/-- Whether what follows a backslash is a whole escape: those that take hexadecimal digits need all
of them, and the number has to be that of a character. -/
def escapeIsWhole (bytes : Bool) (c : Char) (cs : Text) : Bool :=
  let has (n : Nat) : Bool :=
    n ≤ cs.length && (hexNumber? (cs.take n)).any (· ≤ 0x10FFFF)
  if c = 'x' then has 2
  else if bytes then true
  else if c = 'u' then has 4
  else if c = 'U' then has 8
  else c ≠ 'N'

/-- Reads a string from after its opening quote on; gives the text after its closing quote. -/
def stringEnd (kind : StringKind) (quote : Text) : Nat → Text → Option Text
  | 0, _ => none
  | fuel + 1, t =>
    match afterPrefix? quote t, t with
    | some rest, _ => some rest
    | none, '\\' :: c :: cs =>
      if kind.raw || escapeIsWhole kind.bytes c cs then
        if kind.bytes && 0x80 ≤ c.toNat then none else stringEnd kind quote fuel cs
      else none
    | none, c :: cs =>
      if c = '\\' || (c = '\n' && quote.length = 1) || (kind.bytes && 0x80 ≤ c.toNat) then none
      else stringEnd kind quote fuel cs
    | none, [] => none

/-- The quotes of strings, longest first. -/
def quotes : List Text := ["\"\"\"", "'''", "\"", "'"]

/-- Reads one string; says whether it stands for bytes. -/
def string? (t : Text) : Option (Bool × Text) :=
  let letters := t.takeWhile Char.isAlpha
  (Table.get? stringKinds (lowerAscii letters)).bind fun kind =>
    let rest := t.drop letters.length
    match quotes.findSome? fun q => (afterPrefix? q rest).map fun more => (q, more) with
    | none => none
    | some (q, more) => (stringEnd kind q (more.length + 1) more).map fun rest => (kind.bytes, rest)

/-- Reads the strings that follow a string and are joined to it; all have to be of one kind. -/
def joined (broken bytes : Bool) : Nat → Text → Option Text
  | 0, t => some t
  | fuel + 1, t =>
    match string? (skip broken false t) with
    | none => some t
    | some (b, rest) => if b = bytes then joined broken bytes fuel rest else none

/-! ## Data -/

/-- The words that stand for data. -/
def constants : List Text := ["None", "True", "False"]

/-- Reads a word that stands for data, or an empty set. -/
def word (t : Text) : Read :=
  let w := leadingWord t
  let rest := t.drop w.length
  if constants.contains w then some (.fixed, rest)
  else if w = "set" then
    match skip false false rest with
    | '(' :: more =>
      match skip true false more with
      | ')' :: rest => some (.loose, rest)
      | _ => none
    | _ => none
  else none

mutual

/-- Reads a piece of data without sign. -/
def atom : Nat → (broken : Bool) → Text → Read
  | 0, _, _ => none
  | fuel + 1, broken, t =>
    match t with
    | '(' :: rest =>
      match skip true false rest with
      | ')' :: rest => some (.fixed, rest)
      | rest => items fuel ')' false true rest
    | '\x7b' :: rest =>
      match skip true false rest with
      | '\x7d' :: rest => some (.loose, rest)
      | rest => members fuel none rest
    | '.' :: '.' :: '.' :: rest => some (.fixed, rest)
    | c :: _ =>
      if c.isDigit || c = '.' then number t
      else
        match string? t with
        | some (bytes, rest) => (joined broken bytes fuel rest).map fun rest => (.fixed, rest)
        | none => word t
    | [] => none

/-- Reads a piece of data: a sign may precede a number, and an imaginary number may be added to a
real one. -/
def piece : Nat → (broken : Bool) → Text → Read
  | 0, _, _ => none
  | fuel + 1, broken, t =>
    let first : Read := match t with
      | '+' :: rest => unsigned fuel broken rest
      | '-' :: rest => unsigned fuel broken rest
      | _ => atom fuel broken t
    first.bind fun (shape, rest) =>
      match skip broken false rest with
      | sign :: more =>
        if sign = '+' || sign = '-' then
          match shape, atom fuel broken (skip broken false more) with
          | .number false, some (.number true, rest) => some (.fixed, rest)
          | .signed false, some (.number true, rest) => some (.fixed, rest)
          | _, _ => none
        else some (shape, sign :: more)
      | [] => some (shape, [])

/-- Reads the number after a sign. -/
def unsigned : Nat → (broken : Bool) → Text → Read
  | 0, _, _ => none
  | fuel + 1, broken, t =>
    match atom fuel broken (skip broken false t) with
    | some (.number imaginary, rest) => some (.signed imaginary, rest)
    | _ => none

/-- Reads pieces of data up to a closing bracket.  A single piece without comma is itself; else they
are a tuple.  `isTuple` says whether a comma has been read, `keys` whether all pieces so far may be
keys. -/
def items : Nat → (close : Char) → (isTuple keys : Bool) → Text → Read
  | 0, _, _, _, _ => none
  | fuel + 1, close, isTuple, keys, t =>
    (piece fuel true t).bind fun (shape, rest) =>
      let keys := keys && shape.isKey
      let tuple : Shape := if keys then .fixed else .loose
      match skip true false rest with
      | ',' :: rest =>
        match skip true false rest with
        | c :: rest =>
          if c = close then some (tuple, rest) else items fuel close true keys (c :: rest)
        | [] => none
      | c :: rest =>
        if c = close then some (if isTuple then tuple else shape, rest) else none
      | [] => none

/-- Reads the members of a set or the entries of a map up to the closing brace; `isMap` says which
it is, once that is known. -/
def members : Nat → (isMap : Option Bool) → Text → Read
  | 0, _, _ => none
  | fuel + 1, isMap, t =>
    (piece fuel true t).bind fun (shape, rest) =>
      if !shape.isKey then none
      else
        let entry : Option (Bool × Text) := match skip true false rest with
          | ':' :: rest =>
            (piece fuel true (skip true false rest)).map fun (_, rest) => (true, rest)
          | rest => some (false, rest)
        entry.bind fun (mapped, rest) =>
          if isMap = some !mapped then none
          else
            match skip true false rest with
            | ',' :: rest =>
              match skip true false rest with
              | '\x7d' :: rest => some (.loose, rest)
              | rest => members fuel (some mapped) rest
            | '\x7d' :: rest => some (.loose, rest)
            | _ => none

end

/-- Whether nothing but blanks and comments follows. -/
def isOver (t : Text) : Bool := (skip true false (skip false false t)).isEmpty

/-- Whether pieces of data with commas between them make up a whole text. -/
def isListed : Nat → Text → Bool
  | 0, _ => false
  | fuel + 1, t =>
    match piece (2 * t.length + 2) false t with
    | none => false
    | some (_, rest) =>
      match skip false false rest with
      | ',' :: rest =>
        let rest := skip false false rest
        isOver rest || isListed fuel rest
      | rest => isOver rest

/-- Whether a text is data. -/
def isData (t : Text) : Bool := isListed (t.length + 1) (t.dropWhile fun c => c = ' ' || c = '\t')

/-- Whether a payload can be read: a name, a name with arguments in brackets on one line, or
data. -/
def isReadable (payload : Text) : Bool :=
  let t := trim payload
  let rest := t.dropWhile fun c => isWordChar c || c = '.'
  rest.isEmpty ||
    isData (if rest.head? = some '(' && rest.getLast? = some ')' && !rest.contains '\n' then rest
      else t)

end Signpost.Console.Payload
