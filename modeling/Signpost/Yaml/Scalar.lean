import Signpost.Value
import Signpost.Yaml.Cursor
set_option autoImplicit false

/-!
# Scalars

Single values in a settings file: plain, between single quotes, or between double quotes with
escapes.  A scalar may go over several lines, and a line break inside it counts as one space, unless
empty lines follow, which count as line breaks.  A plain scalar may stand for nothing, a truth value
or a whole number; one that looks like a fraction or a date is not followed here, and every other
one is a text.  Not every whole number can be held: some have too many digits.
-/

namespace Signpost.Yaml

open Text

/-! ## Plain scalars -/

/-- Whether a plain scalar stops before the character `c`, which is followed by `next`.  Inside
brackets it stops at more characters. -/
def stopsPlain (inFlow : Bool) (c : Char) (next : Option Char) : Bool :=
  isGap (some c) ||
    (c == ':' &&
      (isGap next || (inFlow && (next.any fun d => (",[]\x7b\x7d" : Text).contains d)))) ||
    (inFlow && (",?[]\x7b\x7d" : Text).contains c)

/-- The part of a plain scalar up to the next gap. -/
def plainChunk (inFlow : Bool) : Text → Text
  | [] => []
  | c :: cs => if stopsPlain inFlow c cs.head? then [] else c :: plainChunk inFlow cs

/-- The line breaks and spaces after a first line break: how many characters, the breaks, and
whether a document mark ends them. -/
def breaksAfter : Text → Nat × Text × Bool
  | [] => (0, [], false)
  | c :: cs =>
    if c == ' ' then
      let (n, breaks, marked) := breaksAfter cs
      (n + 1, breaks, marked)
    else if isBreak c then
      if atMark '-' cs || atMark '.' cs then (1, [plainBreak c], true)
      else
        let (n, breaks, marked) := breaksAfter cs
        (n + 1, plainBreak c :: breaks, marked)
    else (0, [], false)

/-- How a line break followed by `breaks` counts inside a scalar. -/
def folded (first : Char) (breaks : Text) : Text :=
  if plainBreak first != '\n' then plainBreak first :: breaks
  else if breaks.isEmpty then [' ']
  else breaks

/-- The gap after a part of a plain scalar: where it ends, how it counts if the scalar goes on, and
whether it has a line break in it.  Nothing, if the scalar cannot go on. -/
def plainGap (c : Cursor) : Cursor × Option Text × Bool :=
  let spaces := c.rest.takeWhile (· == ' ')
  let c := c.forwardBy spaces.length
  match c.rest with
  | ch :: rest =>
    if isBreak ch then
      if atMark '-' rest || atMark '.' rest then (c.forward, none, true)
      else
        let (n, breaks, marked) := breaksAfter rest
        (c.forwardBy (n + 1), if marked then none else some (folded ch breaks), true)
    else (c, if spaces.isEmpty then none else some spaces, false)
  | [] => (c, if spaces.isEmpty then none else some spaces, false)

/-- A scanned scalar: its text, where it ends, whether a line break follows it, after which a key
may stand, and whether every escape in it stands for a character. -/
structure Scanned where
  text : Text
  after : Cursor
  newLine : Bool := false
  isSound : Bool := true
  deriving Inhabited

/-- Reads a plain scalar; its lines are indented by more than `indent`. -/
def plainScalar (inFlow : Bool) (indent : Int) : Nat → Cursor → Scanned
  | 0, c => { text := [], after := c }
  | fuel + 1, c =>
    match plainChunk inFlow c.rest with
    | [] => { text := [], after := c }
    | chunk =>
      match plainGap (c.forwardBy chunk.length) with
      | (after, none, newLine) => { text := chunk, after, newLine }
      | (after, some gap, newLine) =>
        if after.peek == some '#' || (!inFlow && (after.column : Int) ≤ indent) then
          { text := chunk, after, newLine }
        else
          match plainChunk inFlow after.rest with
          | [] => { text := chunk, after, newLine }
          | _ =>
            let more := plainScalar inFlow indent fuel after
            { more with text := chunk ++ gap ++ more.text }

/-! ## Quoted scalars -/

/-- The character that an escape of one letter stands for. -/
def escape? (c : Char) : Option Char :=
  (Table.get? [('0', Char.ofNat 0), ('a', Char.ofNat 7), ('b', Char.ofNat 8), ('t', '\t'),
    ('\t', '\t'), ('n', '\n'), ('v', Char.ofNat 11), ('f', Char.ofNat 12), ('r', '\r'),
    ('e', Char.ofNat 27), (' ', ' '), ('"', '"'), ('\\', '\\'), ('/', '/'), ('N', Char.ofNat 0x85),
    ('_', Char.ofNat 0xA0), ('L', Char.ofNat 0x2028), ('P', Char.ofNat 0x2029)] c)

/-- How many digits follow an escape that gives a code point. -/
def escapeWidth? (c : Char) : Option Nat :=
  if c = 'x' then some 2 else if c = 'u' then some 4 else if c = 'U' then some 8 else none

/-- The value of a hexadecimal digit. -/
def hexDigit? (c : Char) : Option Nat :=
  if c.isDigit then some (c.toNat - '0'.toNat)
  else if 'a' ≤ c ∧ c ≤ 'f' then some (c.toNat - 'a'.toNat + 10)
  else if 'A' ≤ c ∧ c ≤ 'F' then some (c.toNat - 'A'.toNat + 10)
  else none

/-- The number that some hexadecimal digits write. -/
def hexNumber? (digits : Text) : Option Nat :=
  digits.foldlM (fun n c => (hexDigit? c).map (n * 16 + ·)) 0

/-- The breaks after a line break inside quotes: how many characters, and the breaks.  A document
mark may not stand there. -/
def quotedBreaks (lineStart : Bool) : Text → Option (Nat × Text)
  | [] => some (0, [])
  | c :: cs =>
    if lineStart && (atMark '-' (c :: cs) || atMark '.' (c :: cs)) then none
    else if c == ' ' || c == '\t' then (quotedBreaks false cs).map fun (n, b) => (n + 1, b)
    else if isBreak c then (quotedBreaks true cs).map fun (n, b) => (n + 1, plainBreak c :: b)
    else some (0, [])

/-- The greatest code point. -/
def maxCodePoint : Nat := 0x10FFFF

/-- The greatest number that may be asked for its character. -/
def maxAsked : Nat := 0x7FFFFFFF

/-- The character that an escape with hexadecimal digits stands for; there is none beyond the
greatest code point.  Other numbers without a character are not followed here. -/
def coded (digits : Text) : Except Unread (Option Char) :=
  match hexNumber? digits with
  | none => .error .malformed
  | some n =>
    if n.isValidChar then .ok (some (Char.ofNat n))
    else if maxCodePoint < n ∧ n ≤ maxAsked then .ok none
    else .error .unfollowed

/-- Reads a quoted scalar from after its opening quote. -/
def quotedScalar (quote : Char) : Nat → Cursor → Except Unread Scanned
  | 0, _ => .error .malformed
  | fuel + 1, c =>
    let continueWith (t : Text) (after : Cursor) : Except Unread Scanned :=
      (quotedScalar quote fuel after).map fun s => { s with text := t ++ s.text }
    match c.rest with
    | [] => .error .malformed
    | ch :: rest =>
      if ch == quote then
        if quote == '\'' && rest.head? == some '\'' then continueWith ['\''] (c.forwardBy 2)
        else .ok { text := [], after := c.forward }
      else if ch == '\\' && quote == '"' then
        match rest with
        | [] => .error .malformed
        | e :: more =>
          match escape? e, escapeWidth? e with
          | some r, _ => continueWith [r] (c.forwardBy 2)
          | none, some width =>
            if (more.take width).length = width then
              match coded (more.take width) with
              | .ok (some r) => continueWith [r] (c.forwardBy (width + 2))
              | .ok none =>
                match quotedScalar quote fuel (c.forwardBy (width + 2)) with
                | .ok s => .ok { s with isSound := false }
                | .error _ => .error .unfollowed
              | .error why => .error why
            else .error .malformed
          | none, none =>
            if isBreak e then
              match quotedBreaks true more with
              | some (n, breaks) => continueWith breaks (c.forwardBy (n + 2))
              | none => .error .malformed
            else .error .malformed
      else if ch == ' ' || ch == '\t' then
        let spaces := c.rest.takeWhile fun d => d == ' ' || d == '\t'
        let after := c.forwardBy spaces.length
        match after.rest with
        | [] => .error .malformed
        | d :: _ => continueWith (if isBreak d then [] else spaces) after
      else if isBreak ch then
        match quotedBreaks true rest with
        | some (n, breaks) => continueWith (folded ch breaks) (c.forwardBy (n + 1))
        | none => .error .malformed
      else continueWith [ch] c.forward

/-! ## What a plain scalar stands for -/

/-- The words for nothing. -/
def nullWords : List Text := ["", "~", "null", "Null", "NULL"]

/-- The words for true. -/
def trueWords : List Text := ["yes", "Yes", "YES", "true", "True", "TRUE", "on", "On", "ON"]

/-- The words for false. -/
def falseWords : List Text := ["no", "No", "NO", "false", "False", "FALSE", "off", "Off", "OFF"]

/-- The number that digits write in a base; underscores between them do not count.  Nothing, if
there are other characters or none at all; a fault, if no digit is among them or too many. -/
def digitsIn (base : Nat) (t : Text) : Option (Except Unread Nat) :=
  let digits := t.filter (· != '_')
  if t.isEmpty then none
  else
    (digits.foldlM (fun n c => (hexDigit? c).bind fun d =>
        if d < base then some (n * base + d) else none) 0).map fun n =>
      if digits.isEmpty || (base == 10 && maxDecimalDigits < digits.length) then
        .error .unrepresentable
      else .ok n

/-- A number in groups of sixty: whole minutes and seconds after a leading number. -/
def sixties? : Nat → List Text → Option Nat
  | n, [] => some n
  | n, group :: rest =>
    if group.length = 1 ∨ (group.length = 2 ∧ (group.head?.any fun c => c ≤ '5')) then
      if group.all Char.isDigit then
        sixties? (n * 60 + group.foldl (fun d c => d * 10 + (c.toNat - '0'.toNat)) 0) rest
      else none
    else none

/-- The whole number without sign that a text writes: binary after `0b`, hexadecimal after `0x`,
octal after `0`, in groups of sixty with colons, and decimal otherwise. -/
def natural? (t : Text) : Option (Except Unread Nat) :=
  match t with
  | ['0'] => some (.ok 0)
  | '0' :: 'b' :: digits => digitsIn 2 digits
  | '0' :: 'x' :: digits => digitsIn 16 digits
  | '0' :: digits => if digits.isEmpty then none else digitsIn 8 ('0' :: digits)
  | c :: _ =>
    if c.isDigit then
      match splitAtEach (· == ':') t with
      | [] => none
      | first :: groups =>
        (digitsIn 10 first).bind fun
          | .ok n => (sixties? n groups).map .ok
          | .error fault => (sixties? 0 groups).map fun _ => .error fault
    else none
  | [] => none

/-- The whole number that a text writes. -/
def integer? : Text → Option (Except Unread Int)
  | '-' :: t => (natural? t).map fun r => r.map fun n => -(n : Int)
  | '+' :: t => (natural? t).map fun r => r.map fun n => (n : Int)
  | t => (natural? t).map fun r => r.map fun n => (n : Int)

/-- A digit, or an underscore between digits. -/
def isDigitOrGap (c : Char) : Bool := c.isDigit || c == '_'

/-- A sign in front of a number. -/
def isSign (c : Char) : Bool := c == '+' || c == '-'

/-- A text without the sign that it may start with. -/
def unsigned : Text → Text
  | c :: t => if isSign c then t else c :: t
  | [] => []

/-- Whether a text is an exponent, which has a sign. -/
def isExponent : Text → Bool
  | e :: sign :: digits =>
    (e == 'e' || e == 'E') && isSign sign && !digits.isEmpty && digits.all Char.isDigit
  | _ => false

/-- Whether digits may be followed by this after the point of a fraction. -/
def endsFraction (t : Text) : Bool := t.isEmpty || isExponent t

/-- Whether what stands before and after a point is a fraction; it may come in groups of sixty, and
then has no exponent. -/
def isFractionAround (before after : Text) : Bool :=
  match splitAtEach (· == ':') before with
  | (c :: cs) :: groups =>
    let rest := after.dropWhile isDigitOrGap
    c.isDigit && cs.all isDigitOrGap && (sixties? 0 groups).isSome &&
      (if groups.isEmpty then endsFraction rest else rest.isEmpty)
  | _ => false

/-- The words for infinity, which may have a sign. -/
def infinityWords : List Text := [".inf", ".Inf", ".INF"]

/-- The words for what is no number. -/
def noNumberWords : List Text := [".nan", ".NaN", ".NAN"]

/-- Whether a text writes a number that is not whole: one with a point in it, or one of the words.
-/
def isFraction (t : Text) : Bool :=
  infinityWords.contains (unsigned t) || noNumberWords.contains t ||
    match t with
    | '.' :: c :: cs => c.isDigit && endsFraction (cs.dropWhile isDigitOrGap)
    | _ =>
      match cutAt '.' (unsigned t) with
      | (before, some after) => isFractionAround before after
      | (_, none) => false

/-- What follows some digits, which are at least `low` and at most `high`. -/
def afterDigits? (low high : Nat) (t : Text) : Option Text :=
  let n := ((t.take high).takeWhile Char.isDigit).length
  if low ≤ n then some (t.drop n) else none

/-- What follows a year, a month and a day; the last two have at least `low` digits. -/
def afterDay? (low : Nat) (t : Text) : Option Text := do
  let t ← afterDigits? 4 4 t
  let t ← afterDigits? low 2 (← afterPrefix? ['-'] t)
  afterDigits? low 2 (← afterPrefix? ['-'] t)

/-- What follows an hour, a minute and a second with its parts. -/
def afterTime? (t : Text) : Option Text := do
  let t ← afterDigits? 1 2 t
  let t ← afterDigits? 2 2 (← afterPrefix? [':'] t)
  let t ← afterDigits? 2 2 (← afterPrefix? [':'] t)
  match t with
  | '.' :: parts => return parts.dropWhile Char.isDigit
  | _ => return t

/-- A space or a tab. -/
def isBlank (c : Char) : Bool := c == ' ' || c == '\t'

/-- Whether a text is a time zone. -/
def isZone (t : Text) : Bool :=
  match t.dropWhile isBlank with
  | ['Z'] => true
  | sign :: rest =>
    isSign sign &&
      match afterDigits? 1 2 rest with
      | some (':' :: minutes) => afterDigits? 2 2 minutes == some []
      | zone => zone == some []
  | [] => false

/-- Whether a text writes a date, alone or with a time and a zone. -/
def isDate (t : Text) : Bool :=
  afterDay? 2 t == some [] ||
    match afterDay? 1 t with
    | some (c :: rest) =>
      let time := if isBlank c then rest.dropWhile isBlank else rest
      (c == 'T' || c == 't' || isBlank c) &&
        match afterTime? time with
        | some zone => zone.isEmpty || isZone zone
        | none => false
    | _ => false

/-- The value that a plain scalar stands for. -/
def plainValue (t : Text) : Except Unread Value :=
  if nullWords.contains t then .ok .null
  else if trueWords.contains t then .ok (.bool true)
  else if falseWords.contains t then .ok (.bool false)
  else if isFraction t || isDate t then .error .unfollowed
  else
    match integer? t with
    | some r => r.map .int
    | none => .ok (.str t)

end Signpost.Yaml
