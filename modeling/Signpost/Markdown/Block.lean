import Signpost.Markdown.Line
import Signpost.Markdown.Link
set_option autoImplicit false

/-!
# Documents

A document is a sequence of blocks, some of which hold blocks themselves.  `document` reads one.

A container does not know where it ends before its content has been read: a line without its mark
may still continue a paragraph inside it.  So reading the blocks of a container also tells how many
of its lines were used, and what is left over belongs to what follows.  Containers inside each other
are read up to a fixed depth; what is deeper is not shown.
-/

namespace Signpost.Markdown

open Text

/-- A part of a document.  The content of paragraphs, headings and cells is not read yet. -/
inductive Block where
  | paragraph (content : Text)
  | heading (level : Nat) (content : Text)
  | code (content : Text)
  | rule
  | html
  /-- A table: the sides of its columns, its first row and the other ones. -/
  | table (sides : List Side) (head : List Text) (rows : List (List Text))
  /-- The definition of a reference, which is not shown. -/
  | definition (target : Target)
  | quotation (blocks : List Block)
  /-- A list; the items of a numbered one are counted from `start` on. -/
  | items (start : Option Nat) (blocks : List (List Block))
  deriving Repr, Inhabited

/-- Where the lines of a container stand. -/
structure Frame where
  /-- The column where its content starts. -/
  edge : Nat := 0
  /-- Inside an item, the column where the content around its list starts. -/
  listEdge : Option Nat := none
  deriving DecidableEq, Repr, Inhabited

namespace Frame

/-- Whether a line is indented so far that it is code. -/
def isCode (f : Frame) (l : Line) : Bool := f.edge + 4 ≤ l.indent

/-- Whether a line starts left of the content. -/
def isOutside (f : Frame) (l : Line) : Bool := l.indent < f.edge

end Frame

/-! ## What ends a paragraph -/

/-- The head of the table that starts with two lines: the sides of its columns, and its first
row. -/
def tableHead? (f : Frame) (first : Line) (second : Option Line) :
    Option (List Side × List Text) :=
  match second with
  | none => none
  | some second =>
    if f.isOutside second || f.isCode second || f.isCode first || !first.body.contains '|' then none
    else
      match sides? second.body with
      | none => none
      | some sides =>
        let row := cells first.body
        if row.length = sides.length && !row.isEmpty then some (sides, row) else none

/-- Whether a list may start with a line.  Right after a line of a paragraph it has to start with
the number one, and its first item may not be empty. -/
def startsList (f : Frame) (afterText : Bool) (l : Line) : Bool :=
  let isTooDeep := match f.listEdge with
    | none => false
    | some edge => edge + 4 ≤ l.indent && f.isOutside l
  match Bullet.of? l.body with
  | none => false
  | some bullet =>
    !isTooDeep &&
      (!(afterText && !f.isOutside l) ||
        (bullet.number.getD 1 == 1 && !(l.body.drop bullet.length).all (fun c => isSpace c)))

/-- Whether a line starts a fence, a quotation or a rule. -/
def endsItem (f : Frame) (l : Line) : Bool :=
  !f.isCode l && ((Fence.open? l.body).isSome || l.body.head? == some '>' || isRule l.body)

/-- Whether a line starts a block of its own, so that it does not continue a quotation or a
table. -/
def endsQuotation (f : Frame) (afterText : Bool) (l : Line) : Bool :=
  endsItem f l || (!f.isCode l && (startsList f afterText l || (heading? l.body).isSome ||
    ((htmlStart? l.body).map Prod.snd).getD false))

/-- Whether a line starts a block of its own, so that it does not continue a paragraph. -/
def endsText (f : Frame) (afterText : Bool) (l : Line) (next : Option Line) : Bool :=
  endsQuotation f afterText l || (tableHead? f l next).isSome

/-- How many lines continue a paragraph, and the level of the heading if a line underlines it. -/
def paragraphLines (f : Frame) : List Line → Nat × Option Nat
  | [] => (0, none)
  | l :: rest =>
    let goOn : Nat × Option Nat := let (n, level) := paragraphLines f rest; (n + 1, level)
    if l.isEmpty then (0, none)
    else if f.isCode l then goOn
    else
      match if f.isOutside l then none else underline? l.body with
      | some level => (0, some level)
      | none =>
        if l.indent < 0 then goOn
        else if endsText f true l rest.head? then (0, none)
        else goOn

/-- The lines that may belong to the definition of a reference after its first one. -/
def definitionLines (f : Frame) : List Line → List Line
  | [] => []
  | l :: rest =>
    if l.isEmpty then []
    else if f.isCode l || l.indent < 0 || !endsText f false l rest.head? then
      l :: definitionLines f rest
    else []

/-! ## Blocks without blocks -/

/-- Some blocks, and how many lines they take. -/
abbrev Reading := List Block × Nat

/-- The text of lines from a column on. -/
def textOf (column : Nat) (ls : List Line) : Text := unlines (ls.map (Line.textFrom column))

/-- How many lines are code inside a fence, and whether a line closes it. -/
def fencedLines (f : Frame) (fence : Fence) : List Line → Nat × Bool
  | [] => (0, false)
  | l :: rest =>
    if !l.isEmpty && f.isOutside l then (0, false)
    else if !f.isCode l && fence.isClosedBy l.body then (0, true)
    else let (n, closed) := fencedLines f fence rest; (n + 1, closed)

/-- How many lines belong to indented code; empty lines do if code follows them. -/
def codeLines (f : Frame) : List Line → Nat
  | [] => 0
  | l :: rest =>
    let n := codeLines f rest
    if l.isEmpty then (if n = 0 then 0 else n + 1)
    else if f.isCode l then n + 1
    else 0

/-- How many lines belong to a block of HTML after its first one. -/
def htmlLines (f : Frame) (ending : HtmlEnd) : List Line → Nat
  | [] => 0
  | l :: rest =>
    if f.isOutside l then 0
    else if ending.isAt l.body then (if l.isEmpty then 0 else 1)
    else htmlLines f ending rest + 1

/-- The rows of a table, with as many cells as it has columns. -/
def tableRows (f : Frame) (columns : Nat) : List Line → List (List Text)
  | [] => []
  | l :: rest =>
    if f.isOutside l || f.isCode l || endsQuotation f false l || isBlankText l.body then []
    else
      let row := cells l.body
      (row ++ List.replicate (columns - row.length) []).take columns :: tableRows f columns rest

/-- The definition of a reference that starts with a line. -/
def definitionBlock? (f : Frame) (l : Line) (rest : List Line) : Option Reading :=
  let run := l :: definitionLines f rest
  match definition? (unlines (run.map Line.body)) with
  | none => none
  | some (target, []) => some ([.definition target], run.length)
  | some (target, after) =>
    some ([.definition target], run.length - (1 + after.count '\n'))

/-- The paragraph, or the heading, that starts with a line. -/
def paragraph (f : Frame) (l : Line) (rest : List Line) : Reading :=
  let (n, level) := paragraphLines f rest
  let content := trim (textOf f.edge (l :: rest.take n))
  match level with
  | some level => ([.heading level content], n + 2)
  | none => ([.paragraph content], n + 1)

/-! ## Containers -/

/-- A reader of the blocks inside a container. -/
abbrev Reader := Frame → List Line → Reading

/-- The lines of a quotation after its first one.  `isEmptyBefore` tells whether the last line had
nothing after its mark; no line without a mark follows then. -/
def quotationLines (f : Frame) (isEmptyBefore : Bool) : List Line → List Line
  | [] => []
  | l :: rest =>
    if l.isEmpty then []
    else
      match if f.isOutside l then none else l.unquoted? with
      | some inner => inner :: quotationLines f inner.isEmpty rest
      | none =>
        if isEmptyBefore || endsQuotation f false l then []
        else { l with indent := -1 } :: quotationLines f false rest

/-- The quotation that starts with a line. -/
def quotation? (inside : Reader) (f : Frame) (l : Line) (rest : List Line) : Option Reading :=
  l.unquoted?.map fun first =>
    let (blocks, n) := inside { f with edge := 0 } (first :: quotationLines f first.isEmpty rest)
    ([.quotation blocks], n)

/-- The item that starts with a line that has a mark: its blocks, and how many lines it takes.  Its
content starts after the blanks behind the mark, or one column behind the mark if the content is
code or missing. -/
def item (inside : Reader) (f : Frame) (bullet : Bullet) (l : Line) (rest : List Line) :
    List Block × Nat :=
  let start := l.indent.toNat + bullet.length
  let after := l.body.drop bullet.length
  let blanks := after.takeWhile isSpace
  let body := after.drop blanks.length
  let column := columnAfterAll l.base start blanks
  let gap := if body.isEmpty || 4 < column - start then 1 else column - start
  let first : Line :=
    { l with
      lead := l.lead ++ List.replicate bullet.length ' ' ++ blanks
      indent := column
      body }
  if body.isEmpty && (rest.head?.map Line.isEmpty).getD true then ([], 2)
  else inside { edge := start + gap, listEdge := some f.edge } (first :: rest)

/-- The mark of the next item of a list, if the list goes on with a line. -/
def nextBullet? (f : Frame) (bullet : Bullet) (l : Line) : Option Bullet :=
  if f.isOutside l || f.isCode l || endsItem f l then none
  else
    (Bullet.of? l.body).bind fun next =>
      if next.symbol = bullet.symbol ∧ next.number.isSome = bullet.number.isSome then some next
      else none

/-- The items of a list from one with a mark on, and how many lines they take; `fuel` bounds their
number. -/
def listItems (inside : Reader) (f : Frame) :
    (fuel : Nat) → Bullet → List Line → List (List Block) × Nat
  | 0, _, _ => ([], 0)
  | _ + 1, _, [] => ([], 0)
  | fuel + 1, bullet, l :: rest =>
    let (blocks, n) := item inside f bullet l rest
    let n := min n (rest.length + 1)
    let remaining := (l :: rest).drop n
    match remaining.head?.bind (nextBullet? f bullet) with
    | none => ([blocks], n)
    | some next =>
      let (more, m) := listItems inside f fuel next remaining
      (blocks :: more, n + m)

/-! ## All blocks -/

/-- The block that starts with a line that is not empty. -/
def block (quoted listed : Reader) (f : Frame) (l : Line) (rest : List Line) : Reading :=
  match tableHead? f l rest.head? with
  | some (sides, head) =>
    let rows := tableRows f head.length (rest.drop 1)
    ([.table sides head rows], rows.length + 2)
  | none =>
    if f.isCode l then
      let n := codeLines f rest
      ([.code (textOf (f.edge + 4) (l :: rest.take n))], n + 1)
    else
      match Fence.open? l.body with
      | some fence =>
        let (n, closed) := fencedLines f fence rest
        ([.code (textOf l.indent.toNat (rest.take n))], n + 1 + if closed then 1 else 0)
      | none =>
        match quotation? quoted f l rest with
        | some reading => reading
        | none =>
          if isRule l.body then ([.rule], 1)
          else if startsList f false l then
            match Bullet.of? l.body with
            | none => paragraph f l rest
            | some bullet =>
              let (blocks, n) := listItems listed f (rest.length + 1) bullet (l :: rest)
              ([.items bullet.number blocks], n)
          else
            match definitionBlock? f l rest with
            | some reading => reading
            | none =>
              match htmlStart? l.body with
              | some (ending, _) =>
                ([.html], if ending.isAt l.body then 1 else htmlLines f ending rest + 1)
              | none =>
                match heading? l.body with
                | some (level, content) => ([.heading level content], 1)
                | none => paragraph f l rest

/-- The blocks of a container up to the first line that stands outside it, with readers for what is
inside quotations and lists; `fuel` bounds the number of lines. -/
def blocksWith (quoted listed : Reader) (f : Frame) : (fuel : Nat) → List Line → Reading
  | 0, _ => ([], 0)
  | _ + 1, [] => ([], 0)
  | fuel + 1, l :: rest =>
    if l.isEmpty then
      let (blocks, n) := blocksWith quoted listed f fuel rest
      (blocks, n + 1)
    else if f.isOutside l then ([], 0)
    else
      let (first, n) := block quoted listed f l rest
      let n := max 1 (min n (rest.length + 1))
      let (blocks, m) := blocksWith quoted listed f fuel ((l :: rest).drop n)
      (first ++ blocks, n + m)

/-- How many lines a container takes that is too deep to be shown: all, unless it starts with a line
outside it. -/
def linesTooDeep (f : Frame) (ls : List Line) : Nat :=
  let blanks := (ls.takeWhile Line.isEmpty).length
  match ls.drop blanks with
  | [] => ls.length
  | l :: _ => if f.isOutside l then blanks else ls.length

/-- The blocks of a container, `room` levels above the deepest ones that are shown.  A list takes
two levels, one for itself and one for its items. -/
def blocks : (room : Nat) → Reader
  | 0, f, ls => ([], linesTooDeep f ls)
  | 1, f, ls => blocksWith (blocks 0) (blocks 0) f ls.length ls
  | room + 2, f, ls => blocksWith (blocks (room + 1)) (blocks room) f ls.length ls

/-- How many containers may be inside each other. -/
def maxDepth : Nat := 20

/-- The blocks of a document. -/
def document (t : Text) : List Block :=
  let shown : Text := (plainBreaks t).map fun c => if c.toNat = 0 then replacement else c
  (blocks maxDepth {} ((splitAtEach (· == '\n') shown).map Line.ofText)).1

mutual

/-- The references that a block defines. -/
def Block.targets : Block → List Target
  | .definition target => [target]
  | .quotation blocks => targetsOf blocks
  | .items _ blocks => targetsOfAll blocks
  | _ => []

/-- The references that blocks define, in order. -/
def targetsOf : List Block → List Target
  | [] => []
  | b :: rest => b.targets ++ targetsOf rest

/-- The references that the blocks of all items define. -/
def targetsOfAll : List (List Block) → List Target
  | [] => []
  | bs :: rest => targetsOf bs ++ targetsOfAll rest

end

end Signpost.Markdown
