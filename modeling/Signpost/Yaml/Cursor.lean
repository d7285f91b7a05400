import Signpost.Text.Basic
set_option autoImplicit false

/-!
# Reading positions

Settings files are indented, so their reader has to know on which line and in which column it is.
A cursor is the text still to be read with that position.
-/

namespace Signpost.Yaml

/-- A character that ends a line of a settings file. -/
def isBreak (c : Char) : Bool :=
  c == '\n' || c == '\r' || c.toNat == 0x85 || c.toNat == 0x2028 || c.toNat == 0x2029

/-- A line break as it counts inside a scalar. -/
def plainBreak (c : Char) : Char :=
  if c.toNat == 0x2028 || c.toNat == 0x2029 then c else '\n'

/-- Whether a token ends here: at the end of the text, a space, a tab or a line break. -/
def isGap : Option Char → Bool
  | none => true
  | some c => c == ' ' || c == '\t' || isBreak c

/-- The characters that a settings file may hold. -/
def isAllowed (c : Char) : Bool :=
  let n := c.toNat
  n == 0x09 || n == 0x0A || n == 0x0D || (0x20 ≤ n && n ≤ 0x7E) || n == 0x85 ||
    (0xA0 ≤ n && n ≤ 0xFFFD) || 0x10000 ≤ n

/-- The mark that may start a text without being part of it. -/
def byteOrderMark : Char := Char.ofNat 0xFEFF

/-- A place in a text: what follows, the line and column, and how many characters precede. -/
structure Cursor where
  rest : Text
  line : Nat := 0
  column : Nat := 0
  index : Nat := 0
  deriving DecidableEq, Repr, Inhabited

namespace Cursor

/-- The next character. -/
def peek (c : Cursor) : Option Char := c.rest.head?

/-- The character after the next. -/
def peekSecond (c : Cursor) : Option Char := c.rest.tail.head?

/-- One character further. -/
def forward (c : Cursor) : Cursor :=
  match c.rest with
  | [] => c
  | ch :: rest =>
    if isBreak ch then ⟨rest, c.line + 1, 0, c.index + 1⟩
    else if ch == byteOrderMark then ⟨rest, c.line, c.column, c.index + 1⟩
    else ⟨rest, c.line, c.column + 1, c.index + 1⟩

/-- Some characters further. -/
def forwardBy : Nat → Cursor → Cursor
  | 0, c => c
  | n + 1, c => forwardBy n c.forward

end Cursor

/-- Whether a document mark stands at the start of a line: three dashes or three dots and a gap. -/
def atMark (mark : Char) : Text → Bool
  | a :: b :: c :: rest => a == mark && b == mark && c == mark && isGap rest.head?
  | _ => false

/-- How many characters stand before the next token, and whether a line break is among them:
spaces, line breaks, and comments up to the end of their line. -/
def gapLength (inComment : Bool) : Text → Nat × Bool
  | [] => (0, false)
  | c :: cs =>
    if isBreak c then ((gapLength false cs).1 + 1, true)
    else if inComment || c == '#' then
      let (n, broken) := gapLength true cs
      (n + 1, broken)
    else if c == ' ' then
      let (n, broken) := gapLength false cs
      (n + 1, broken)
    else (0, false)

end Signpost.Yaml
