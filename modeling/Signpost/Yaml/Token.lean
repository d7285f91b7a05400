import Signpost.Yaml.Scalar
set_option autoImplicit false

/-!
# Tokens of a settings file

The file as a list of tokens.  Indentation becomes tokens of its own: a block of entries starts at
the first line of a deeper column and ends before the first line of a shallower one.  Outside
brackets, a scalar turns out to be a key only when a colon follows it, on the same line and at most
1024 characters later; the key token, and if need be the start of a block, are then put in before
it.
-/

namespace Signpost.Yaml

/-- A token. -/
inductive Token where
  | documentStart
  | documentEnd
  | blockSequenceStart
  | blockMappingStart
  | blockEnd
  | flowSequenceStart
  | flowSequenceEnd
  | flowMappingStart
  | flowMappingEnd
  | blockEntry
  | flowEntry
  | key
  | value
  /-- A scalar, and whether it is plain. -/
  | scalar (t : Text) (isPlain : Bool)
  deriving Repr, Inhabited

/-- A place where a key may have begun. -/
structure PossibleKey where
  /-- How many tokens precede it. -/
  tokens : Nat
  /-- Whether something has to be a key there, because a block is continued. -/
  required : Bool
  index : Nat
  line : Nat
  column : Nat
  deriving DecidableEq, Repr, Inhabited

/-- The state of the reader. -/
structure Scanner where
  cursor : Cursor
  /-- The tokens so far. -/
  tokens : List Token := []
  /-- The column of the current block; `-1` outside all blocks. -/
  indent : Int := -1
  /-- The columns of the blocks around it, innermost first. -/
  outer : List Int := []
  /-- Where a key may have begun: before the current position, and outside each open bracket,
  innermost first.  Its length is the number of open brackets plus one. -/
  keys : List (Option PossibleKey) := [none]
  /-- Whether a key may begin here. -/
  keyAllowed : Bool := true
  /-- Whether every escape so far stands for a character. -/
  isSound : Bool := true
  deriving Inhabited

namespace Scanner

/-- Whether a bracket is open. -/
def inFlow (s : Scanner) : Bool := s.keys.length > 1

/-- On how many levels the reader is: those of the open brackets, and those of the blocks. -/
def level (s : Scanner) : Nat := s.keys.length + s.outer.length

/-- Adds a token at the end. -/
def emit (t : Token) (s : Scanner) : Scanner := { s with tokens := s.tokens ++ [t] }

/-- Goes some characters further. -/
def skip (n : Nat) (s : Scanner) : Scanner := { s with cursor := s.cursor.forwardBy n }

/-- Goes to the next token.  Outside brackets a key may begin on a new line. -/
def toNextToken (s : Scanner) : Scanner :=
  let start := if s.cursor.index = 0 ∧ s.cursor.peek = some byteOrderMark then s.skip 1 else s
  let (n, broken) := gapLength false start.cursor.rest
  let s := start.skip n
  if broken && !s.inFlow then { s with keyAllowed := true } else s

/-- Whether a possible key can no longer be one. -/
def isStale (s : Scanner) (k : PossibleKey) : Bool :=
  k.line != s.cursor.line || s.cursor.index - k.index > 1024

/-- Forgets the keys that can no longer be keys; a required one may not be forgotten. -/
def dropStale (s : Scanner) : Option Scanner :=
  if s.keys.any fun k => k.any fun k => s.isStale k && k.required then none
  else some { s with keys := s.keys.map fun k => k.filter fun k => !s.isStale k }

/-- Ends the blocks that are indented deeper than `column`. -/
def unwind (column : Int) (s : Scanner) : Scanner :=
  if s.inFlow then s
  else
    let rec close (indent : Int) : List Int → Nat → Int × List Int × Nat
      | [], n => if indent > column then (-1, [], n) else (indent, [], n)
      | o :: os, n => if indent > column then close o os (n + 1) else (indent, o :: os, n)
    let (indent, outer, n) := close s.indent s.outer 0
    { s with indent, outer, tokens := s.tokens ++ List.replicate n .blockEnd }

/-- Starts a block at `column` if that is deeper, with the token `t` before token number `place`. -/
def openBlock (column : Nat) (t : Token) (place : Nat) (s : Scanner) : Scanner :=
  if s.indent < column then
    { s with
      indent := column
      outer := s.indent :: s.outer
      tokens := s.tokens.take place ++ t :: s.tokens.drop place }
  else s

/-- Forgets where a key may have begun at the current level; a required one may not be forgotten. -/
def forgetKey (s : Scanner) : Option Scanner :=
  match s.keys with
  | some k :: _ => if k.required then none else some { s with keys := none :: s.keys.tail }
  | _ => some s

/-- Remembers that a key may begin here, if it may. -/
def rememberKey (s : Scanner) : Option Scanner :=
  if s.keyAllowed then
    s.forgetKey.map fun s =>
      { s with
        keys :=
          some { tokens := s.tokens.length
                 required := !s.inFlow && s.indent == (s.cursor.column : Int)
                 index := s.cursor.index
                 line := s.cursor.line
                 column := s.cursor.column } :: s.keys.tail }
  else some s

/-- An opening bracket. -/
def openFlow (t : Token) (s : Scanner) : Option Scanner :=
  s.rememberKey.map fun s => ({ s with keys := none :: s.keys, keyAllowed := true }.skip 1).emit t

/-- A closing bracket; one has to be open. -/
def closeFlow (t : Token) (s : Scanner) : Option Scanner :=
  s.forgetKey.bind fun s =>
    match s.keys with
    | _ :: outer :: rest =>
      some (({ s with keys := outer :: rest, keyAllowed := false }.skip 1).emit t)
    | _ => none

/-- A comma between brackets. -/
def entryInFlow (s : Scanner) : Option Scanner :=
  s.forgetKey.map fun s => ({ s with keyAllowed := true }.skip 1).emit .flowEntry

/-- The dash before an item. -/
def entryInBlock (s : Scanner) : Option Scanner :=
  if s.inFlow then s.forgetKey.map fun s => ({ s with keyAllowed := true }.skip 1).emit .blockEntry
  else if s.keyAllowed then
    let s := s.openBlock s.cursor.column .blockSequenceStart s.tokens.length
    s.forgetKey.map fun s => ({ s with keyAllowed := true }.skip 1).emit .blockEntry
  else none

/-- The question mark before a key. -/
def explicitKey (s : Scanner) : Option Scanner :=
  if s.inFlow then s.forgetKey.map fun s => ({ s with keyAllowed := false }.skip 1).emit .key
  else if s.keyAllowed then
    let s := s.openBlock s.cursor.column .blockMappingStart s.tokens.length
    s.forgetKey.map fun s => ({ s with keyAllowed := true }.skip 1).emit .key
  else none

/-- The colon after a key. -/
def valueMark (s : Scanner) : Option Scanner :=
  match s.keys with
  | some k :: rest =>
    let s := { s with
      keys := none :: rest
      keyAllowed := false
      tokens := s.tokens.take k.tokens ++ Token.key :: s.tokens.drop k.tokens }
    let s := if s.inFlow then s else s.openBlock k.column .blockMappingStart k.tokens
    some ((s.skip 1).emit .value)
  | _ =>
    if s.inFlow then some (({ s with keyAllowed := false }.skip 1).emit .value)
    else if s.keyAllowed then
      let s := s.openBlock s.cursor.column .blockMappingStart s.tokens.length
      some (({ s with keyAllowed := true }.skip 1).emit .value)
    else none

/-- A document mark of three characters. -/
def documentMark (t : Token) (s : Scanner) : Option Scanner :=
  (s.unwind (-1)).forgetKey.map fun s => ({ s with keyAllowed := false }.skip 3).emit t

/-- A scalar between quotes. -/
def quotedToken (quote : Char) (s : Scanner) : Except Unread Scanner :=
  (Unread.orMalformed s.rememberKey).bind fun s =>
    (quotedScalar quote (s.cursor.rest.length + 1) s.cursor.forward).map fun r =>
      { s with cursor := r.after, keyAllowed := false, isSound := s.isSound && r.isSound }.emit
        (.scalar r.text false)

/-- A plain scalar. -/
def plainToken (s : Scanner) : Option Scanner :=
  s.rememberKey.map fun s =>
    let r := plainScalar s.inFlow s.indent (s.cursor.rest.length + 1) s.cursor
    { s with cursor := r.after, keyAllowed := r.newLine }.emit (.scalar r.text true)

/-- Whether a plain scalar may begin here. -/
def plainBegins (s : Scanner) : Bool :=
  match s.cursor.peek with
  | none => false
  | some c =>
    !(isGap (some c) || ("-?:,[]\x7b\x7d#&*!|>'\"%@`" : Text).contains c) ||
      (!isGap s.cursor.peekSecond && (c == '-' || (!s.inFlow && (c == '?' || c == ':'))))

/-- Reads the next token, at the character `c`, which is no quote. -/
def unquotedToken (c : Char) (s : Scanner) : Option Scanner :=
  let gapFollows := isGap s.cursor.peekSecond
  if s.cursor.column = 0 ∧ atMark '-' s.cursor.rest then s.documentMark .documentStart
  else if s.cursor.column = 0 ∧ atMark '.' s.cursor.rest then s.documentMark .documentEnd
  else if c = '[' then s.openFlow .flowSequenceStart
  else if c = '\x7b' then s.openFlow .flowMappingStart
  else if c = ']' then s.closeFlow .flowSequenceEnd
  else if c = '\x7d' then s.closeFlow .flowMappingEnd
  else if c = ',' then s.entryInFlow
  else if c = '-' ∧ gapFollows then s.entryInBlock
  else if c = '?' ∧ (s.inFlow ∨ gapFollows) then s.explicitKey
  else if c = ':' ∧ (s.inFlow ∨ gapFollows) then s.valueMark
  else if s.plainBegins then s.plainToken
  else none

/-- Whether the character `c` begins something here that is not followed: an anchor or a reference
to one, a tag, a scalar with the layout of its lines, or a directive. -/
def beginsUnfollowed (c : Char) (s : Scanner) : Bool :=
  c == '&' || c == '*' || c == '!' || (!s.inFlow && (c == '|' || c == '>')) ||
    (s.cursor.column == 0 && c == '%')

/-- Reads the next token, at the character `c`. -/
def token (c : Char) (s : Scanner) : Except Unread Scanner :=
  if c = '\'' ∨ c = '"' then s.quotedToken c
  else if s.beginsUnfollowed c then .error .unfollowed
  else Unread.orMalformed (s.unquotedToken c)

/-- What a file comes to that is not well formed.  If it also has an escape without a character, it
is left open which of the two is met first. -/
def fault (s : Scanner) : Unread := if s.isSound then .malformed else .unfollowed

/-- Reads tokens up to the end of the text, as long as there are not too many levels. -/
def run : Nat → Scanner → Except Unread Scanner
  | 0, s => .error s.fault
  | fuel + 1, s =>
    match s.toNextToken.dropStale with
    | none => .error s.fault
    | some s =>
      let s := s.unwind s.cursor.column
      match s.cursor.peek with
      | none =>
        match (s.unwind (-1)).forgetKey with
        | none => .error s.fault
        | some s => .ok s
      | some c =>
        match s.token c with
        | .error .malformed => .error s.fault
        | .error why => .error why
        | .ok s => if maxLevels < s.level then .error .unfollowed else run fuel s

end Scanner

/-- How much of a settings file is looked at as a whole, before its tokens are read. -/
def firstPart : Nat := 4096

/-- Reads the tokens of a settings file.  Further on, characters that it may not hold are found only
when they are reached, and what is met before them is not followed here. -/
def scan (t : Text) : Except Unread Scanner :=
  if t.all isAllowed then Scanner.run (t.length + 2) { cursor := { rest := t } }
  else if (t.take firstPart).all isAllowed then .error .unfollowed
  else .error .malformed

end Signpost.Yaml
