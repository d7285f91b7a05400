import Signpost.Markdown.Emphasis
import Signpost.Markdown.Html
import Signpost.Markdown.Link
set_option autoImplicit false

/-!
# The content of a paragraph

A paragraph is a sequence of fragments: texts, line breaks, pictures and HTML.  `fragments` reads
it.  The marks of emphasis are not shown where they form pairs, and of a link only its label is
shown.

The reading goes in two passes.  `measured` finds from the end on how long the construct is that
starts at each character, which is what a label has to know to find its end: a bracket inside a code
span closes nothing.  `tokensWith` then goes from the start on and takes the constructs.  A link
holds no other link, so the label of a link is read without links.
-/

namespace Signpost.Markdown

open Text

/-- A fragment of a paragraph. -/
inductive Fragment where
  | text (t : Text)
  /-- A line break that may become a space. -/
  | softBreak
  /-- A line break that has to stay. -/
  | hardBreak
  /-- A picture: the text that describes it, and where it is. -/
  | image (description destination : Text)
  /-- Something written in HTML, which is not shown. -/
  | html
  deriving DecidableEq, Repr, Inhabited

/-! ## Code fragments -/

/-- The length of the text before the next run of exactly `k` backticks; `skip` characters are
passed over first. -/
def codeLength? (k : Nat) : (skip : Nat) → Text → Option Nat
  | _, [] => none
  | skip + 1, _ :: cs => (codeLength? k skip cs).map (· + 1)
  | 0, c :: cs =>
    if c = '\x60' then
      let run := 1 + (cs.takeWhile (· == '\x60')).length
      if run = k then some 0 else (codeLength? k (run - 1) cs).map (· + 1)
    else (codeLength? k 0 cs).map (· + 1)

/-- How many backticks a text starts with. -/
def backticks (t : Text) : Nat := (t.takeWhile (· == '\x60')).length

/-- The code that starts with the backticks here; nothing, if they are not closed. -/
def code? (t : Text) : Option Text :=
  let inner := t.drop (backticks t)
  (codeLength? (backticks t) 0 inner).map inner.take

/-- Code as it is shown: line breaks are spaces, and a space at both ends is left out. -/
def shownCode (t : Text) : Text :=
  let line : Text := t.map fun c => if c = '\n' then ' ' else c
  if line.head? = some ' ' && line.getLast? = some ' ' && !isBlankText line then
    (line.drop 1).dropLast
  else line

/-! ## Labels and links -/

/-- A text with the length of the construct that starts at each of its characters. -/
abbrev Measured := List (Char × Nat)

/-- The characters of a measured text. -/
def plain (t : Measured) : Text := t.map Prod.fst

/-- The length of a label, from after its opening bracket on: up to the bracket that closes it.
`level` brackets are open inside it, and `skip` characters belong to a construct. -/
def labelLength? (holdsLinks : Bool) : (skip level : Nat) → Measured → Option Nat
  | _, _, [] => none
  | skip + 1, level, _ :: rest => (labelLength? holdsLinks skip level rest).map (· + 1)
  | 0, level, (c, n) :: rest =>
    if c = ']' then
      if level = 0 then some 0 else (labelLength? holdsLinks 0 (level - 1) rest).map (· + 1)
    else if c = '[' ∧ n = 1 then (labelLength? holdsLinks 0 (level + 1) rest).map (· + 1)
    else if c = '[' ∧ !holdsLinks then none
    else (labelLength? holdsLinks (n - 1) level rest).map (· + 1)

/-- How the destination in parentheses after a label goes on. -/
inductive Ending where
  /-- The text ends. -/
  | missing
  /-- It is not closed where it should be; this follows the place. -/
  | broken (rest : Text)
  /-- It is closed; this follows. -/
  | closed (destination rest : Text)
  deriving DecidableEq, Repr, Inhabited

/-- What a closing parenthesis here ends. -/
def Ending.here (destination : Text) : Text → Ending
  | ')' :: rest => .closed destination rest
  | t => .broken (t.drop 1)

/-- Reads the destination and title of a link, from after the opening parenthesis on. -/
def Ending.read (t : Text) : Ending :=
  match skipSpacing t with
  | [] => .missing
  | c :: cs =>
    match destination? (c :: cs) with
    | none => .here [] (c :: cs)
    | some (found, rest) =>
      let (kept, rest) := if isAllowed found then (found, rest) else ([], c :: cs)
      let spaced := skipSpacing rest
      match if spaced.length = rest.length then none else title? spaced with
      | some (_, rest) => .here kept (skipSpacing rest)
      | none => .here kept spaced

/-- A link or picture: its label, where it leads to, and what follows it. -/
structure Link where
  label : Measured
  destination : Text
  rest : Measured
  deriving Repr, Inhabited

/-- The link with a label that refers to a definition: one with the label in the brackets at `next`,
or with its own label. -/
def referring? (targets : List Target) (label after next : Measured) : Option Link :=
  let (given, rest) : Text × Measured := match next with
    | ('[', _) :: more =>
      match labelLength? true 0 0 more with
      | some n => (plain (more.take n), more.drop (n + 1))
      | none => ([], after)
    | _ => ([], after)
  let key := labelKey (if given.isEmpty then plain label else given)
  (targets.find? (·.key == key)).map fun target => ⟨label, target.destination, rest⟩

/-- The link or picture that starts after an opening bracket.  The label of a picture may hold
links. -/
def link? (targets : List Target) (isImage : Bool) (t : Measured) : Option Link :=
  match labelLength? isImage 0 0 t with
  | none => none
  | some n =>
    let label := t.take n
    let after := t.drop (n + 1)
    match after with
    | ('(', _) :: more =>
      match Ending.read (plain more) with
      | .missing => none
      | .broken rest =>
        if isImage then none
        else referring? targets label after (more.drop (more.length - rest.length))
      | .closed destination rest =>
        some ⟨label, destination, more.drop (more.length - rest.length)⟩
    | _ => referring? targets label after after

/-! ## Measuring -/

/-- How many blanks a text starts with. -/
def spaces (t : Text) : Nat := (t.takeWhile isSpace).length

/-- The piece of HTML that starts here: its length.  It has three characters at least. -/
def htmlLength? (t : Text) : Option Nat := (afterHtml? t).map fun rest => t.length - rest.length

/-- The length of the construct that starts with a character; `rest` is what follows it. -/
def constructLength (targets : List Target) (c : Char) (rest : Measured) : Nat :=
  let t := plain rest
  if c = '\n' then 1 + spaces t
  else if c = '\\' then
    match t with
    | [] => 1
    | '\n' :: more => 2 + spaces more
    | _ :: _ => 2
  else if c = '\x60' then
    let k := backticks (c :: t)
    match code? (c :: t) with
    | some inner => inner.length + 2 * k
    | none => k
  else if c = '[' then
    match link? targets false rest with
    | some l => rest.length + 1 - l.rest.length
    | none => 1
  else if c = '!' then
    match rest with
    | ('[', _) :: more =>
      match link? targets true more with
      | some l => rest.length + 1 - l.rest.length
      | none => 1
    | _ => 1
  else if c = '<' then
    match addressLink? t with
    | some (_, after) => t.length + 1 - after.length
    | none => (htmlLength? (c :: t)).getD 1
  else if c = '&' then
    match reference? t with
    | some (_, after) => t.length + 1 - after.length
    | none => 1
  else 1

/-- A text with the lengths of its constructs. -/
def measured (targets : List Target) : Text → Measured
  | [] => []
  | c :: cs =>
    let rest := measured targets cs
    (c, constructLength targets c rest) :: rest

/-! ## Taking the constructs -/

/-- What a text consists of before emphasis is known. -/
inductive Token where
  /-- A character that means nothing special. -/
  | char (c : Char)
  | fragment (s : Fragment)
  /-- The label of a link. -/
  | label (ps : List Fragment)
  | mark (m : Mark) (shown : Text)
  deriving Repr, Inhabited

/-- What precedes a line break, last first, with the break: two spaces or more make it stay, and
spaces before it go either way. -/
def withBreak (done : List Token) : List Token :=
  let isSpaceToken : Token → Bool
    | .char c => c == ' '
    | _ => false
  (if 2 ≤ (done.takeWhile isSpaceToken).length then Token.fragment .hardBreak
    else Token.fragment .softBreak) :: done.dropWhile isSpaceToken

/-- The marks of a run of `symbol` between two characters. -/
def runMarks (symbol before after : Char) (length : Nat) : List Token :=
  let sides := Flanks.of (symbol != '_') before after
  let mark (length : Nat) : Mark :=
    { symbol, length, opens := sides.opens, closes := sides.closes }
  if symbol = '~' then
    (if length % 2 = 0 then [] else [.fragment (.text [symbol])]) ++
      List.replicate (length / 2) (.mark (mark 0) [symbol, symbol])
  else List.replicate length (.mark (mark length) [symbol])

/-- Takes the construct that starts with a character.  `before` is the character before it, `n` its
length, `rest` what follows the character and `done` what precedes it, last first; gives `done` with
the construct, and how many characters that took. -/
def take (targets : List Target) (label : Measured → List Fragment) (before c : Char) (n : Nat)
    (rest : Measured) (done : List Token) : List Token × Nat :=
  let one : List Token × Nat := (.char c :: done, 1)
  if c = '\n' then (withBreak done, n)
  else if c = '\\' then
    match rest with
    | [] => one
    | (d, _) :: _ =>
      if d = '\n' then (.fragment .hardBreak :: done, n)
      else (.fragment (.text (if isAsciiPunctuation d then [d] else [c, d])) :: done, n)
  else if c = '\x60' then
    match code? (c :: plain rest) with
    | some inner => (.fragment (.text (shownCode inner)) :: done, n)
    | none => (List.replicate n (.char c) ++ done, n)
  else if c = '*' ∨ c = '_' ∨ c = '~' then
    let more := ((plain rest).takeWhile (· == c)).length
    if c = '~' ∧ more = 0 then one
    else
      let after := ((rest.drop more).head?.map Prod.fst).getD ' '
      ((runMarks c before after (more + 1)).reverse ++ done, more + 1)
  else if n = 1 then one
  else if c = '[' then
    match link? targets false rest with
    | some l => (.label (label l.label) :: done, n)
    | none => one
  else if c = '!' then
    match link? targets true (rest.drop 1) with
    | some l => (.fragment (.image (plain l.label) l.destination) :: done, n)
    | none => one
  else if c = '<' then
    match addressLink? (plain rest) with
    | some (shown, _) => (.fragment (.text shown) :: done, n)
    | none => (.fragment .html :: done, n)
  else if c = '&' then
    match reference? (plain rest) with
    | some (characters, _) => (.fragment (.text characters) :: done, n)
    | none => one
  else one

/-- What a text consists of.  `before` is the character before it; `skip` characters at its start
have been taken already, and `done` precedes it, last first. -/
def tokensWith (targets : List Target) (label : Measured → List Fragment) :
    (before : Char) → (skip : Nat) → (done : List Token) → Measured → List Token
  | _, _, done, [] => done.reverse
  | _, skip + 1, done, (c, _) :: rest => tokensWith targets label c skip done rest
  | before, 0, done, (c, n) :: rest =>
    let (done, taken) := take targets label before c n rest done
    tokensWith targets label c (taken - 1) done rest

/-- The marks among tokens, with their places. -/
def marksOf (ts : List Token) : List Mark :=
  ts.zipIdx.filterMap fun
    | (.mark m _, place) => some { m with place }
    | _ => none

/-- The fragments of a text: marks in pairs are left out, all others are text. -/
def fragmentsOf (ts : List Token) : List Fragment :=
  let pairs := paired (marksOf ts)
  ts.zipIdx.flatMap fun
    | (.char c, _) => [.text [c]]
    | (.fragment p, _) => [p]
    | (.label ps, _) => ps
    | (.mark _ shown, place) => if pairs.contains place then [] else [.text shown]

/-- The fragments of a label: what is left of a link in it is text. -/
def labelFragments (targets : List Target) (t : Measured) : List Fragment :=
  fragmentsOf (tokensWith targets (fun inner => [.text (plain inner)]) '[' 0 [] t)

/-- The fragments of a paragraph. -/
def fragments (targets : List Target) (t : Text) : List Fragment :=
  fragmentsOf (tokensWith targets (labelFragments targets) ' ' 0 [] (measured targets t))

end Signpost.Markdown
