import Signpost.Block
import Signpost.Header
set_option autoImplicit false

/-!
# Building an index

One pass over the lines of a source.  The builder remembers which blocks are open, innermost first:
a non-blank line closes every block that is indented at least as deep as the line.  A header without
indentation enters the index; a function header directly inside an indexed class becomes one of its
methods; every other header only opens a block, so what is nested deeper stays part of the
enclosing source.
-/

namespace Signpost.Index

open Text

/-- A block whose end has not been reached. -/
structure OpenBlock where
  /-- The indentation of its header. -/
  depth : Nat
  /-- The name under which the block's class is indexed, if it is the block of an indexed class. -/
  owner : Option Text := none
  deriving DecidableEq, Repr, Inhabited

/-- An indexed header that could not be read: its name and its line, counted from one. -/
structure Unread where
  name : Text
  line : Nat
  deriving DecidableEq, Repr, Inhabited

/-- The state of the pass. -/
structure Builder where
  index : Index := []
  /-- The open blocks, innermost first. -/
  opened : List OpenBlock := []
  /-- The headers that could not be read so far. -/
  unread : List Unread := []
  deriving Inhabited

namespace Builder

/-- Closes the blocks that end before a line of this indentation. -/
def closeTo (depth : Nat) (b : Builder) : Builder :=
  { b with opened := b.opened.dropWhile (depth ≤ ·.depth) }

/-- Enters a definition that stands at the left margin on line `number`. -/
def enter (kind : Kind) (name : Text) (number : Nat) (definition : Definition) (b : Builder) :
    Builder :=
  { index := Table.insert b.index name definition
    opened :=
      ⟨0, if kind = .cls ∧ ¬ definition.isDegenerate then some name else none⟩ :: b.opened
    unread := if definition.isDegenerate then b.unread ++ [⟨name, number⟩] else b.unread }

/-- Enters a header that stands deeper.  It is a method when it is a function header and the only
open block is that of an indexed class. -/
def enterNested (depth : Nat) (kind : Kind) (name : Text) (definition : Definition) (b : Builder) :
    Builder :=
  let index := match kind, b.opened with
    | .func, [⟨_, some owner⟩] => Table.modify (·.withChild name definition) b.index owner
    | _, _ => b.index
  { b with index, opened := ⟨depth, none⟩ :: b.opened }

/-- Takes in one line; `following` are the lines after it. -/
def step (d : Dialect) (blocked : List Text) (number : Nat) (line : Text) (following : List Text)
    (b : Builder) : Builder :=
  if isBlankText line then b
  else
    let depth := indentation line
    let b := b.closeTo depth
    match Header.start? d line with
    | none => b
    | some (kind, name) =>
      let definition := Definition.ofBlock d blocked (Block.text line following)
      if depth = 0 then b.enter kind name number definition
      else b.enterNested depth kind name definition

/-- Takes in lines one after the other; `number` is the number of the first. -/
def run (d : Dialect) (blocked : List Text) (number : Nat) : List Text → Builder → Builder
  | [], b => b
  | line :: following, b =>
    run d blocked (number + 1) following (b.step d blocked number line following)

/-- The finished index: classes without parameters adopt those of their constructors. -/
def finish (d : Dialect) (b : Builder) : Index :=
  b.index.map fun e => (e.1, e.2.adoptConstructor d.constructorName)

end Builder

/-- The pass over a whole source. -/
def scan (d : Dialect) (blocked : List Text) (source : Text) : Builder :=
  Builder.run d blocked 1 (lines source) {}

/-- The index of a source: its definitions at the left margin, with the methods of its classes. -/
def build (d : Dialect) (blocked : List Text) (source : Text) : Index :=
  (scan d blocked source).finish d

/-- The indexed headers of a source that could not be read. -/
def unread (d : Dialect) (blocked : List Text) (source : Text) : List Unread :=
  (scan d blocked source).unread

end Signpost.Index
