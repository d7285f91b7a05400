import Signpost.Text.Blank
import Signpost.Text.Punctuation
set_option autoImplicit false

/-!
# Emphasis

Runs of `*`, `_` and `~` may open or close emphasis.  What stands on both sides of a run decides
whether it may; `Flanks.of` looks at that.  `paired` then finds which marks belong together: each
closing mark takes the nearest opening one that is still free, and marks between the two stay what
they are.

The lengths of two runs of which one could both open and close must not add up to a multiple of
three, unless both are multiples of three; otherwise `*a**b*` would close in the middle.
-/

namespace Signpost.Markdown

open Text

/-- A blank beside a run of marks. -/
def isSpacing (c : Char) : Bool :=
  inRanges [(0x9, 0xD), (0x20, 0x20), (0xA0, 0xA0), (0x1680, 0x1680), (0x2000, 0x200A),
    (0x202F, 0x202F), (0x205F, 0x205F), (0x3000, 0x3000)] c.toNat

/-- What a run of marks may do. -/
structure Flanks where
  opens : Bool
  closes : Bool
  deriving DecidableEq, Repr, Inhabited

/-- What a run may do between the characters `before` and `after`.  Marks that do not split words
neither open nor close inside one. -/
def Flanks.of (splitsWords : Bool) (before after : Char) : Flanks :=
  let left := !(isSpacing after || (isPunctuation after &&
    !(isSpacing before || isPunctuation before)))
  let right := !(isSpacing before || (isPunctuation before &&
    !(isSpacing after || isPunctuation after)))
  { opens := left && (splitsWords || !right || isPunctuation before)
    closes := right && (splitsWords || !left || isPunctuation after) }

/-- A mark that may open or close emphasis. -/
structure Mark where
  symbol : Char
  /-- The length of its run; zero for marks that pair whatever the lengths are. -/
  length : Nat
  opens : Bool
  closes : Bool
  /-- Its place among everything that the text consists of. -/
  place : Nat := 0
  /-- Whether it has been taken as the opening mark of a pair. -/
  isTaken : Bool := false
  deriving DecidableEq, Repr, Inhabited

/-- Whether the lengths of their runs let two marks be a pair. -/
def Mark.fits (opener closer : Mark) : Bool :=
  !((opener.closes || closer.opens) && (opener.length + closer.length) % 3 == 0 &&
    (opener.length % 3 != 0 || closer.length % 3 != 0))

/-- The state of the search for pairs. -/
structure Pairing where
  marks : Array Mark
  /-- For each mark passed, how many marks before it need not be looked at. -/
  jumps : Array Nat := #[]
  /-- Where the current run starts. -/
  runStart : Nat := 0
  /-- The place of the last mark, if the run may go on after it. -/
  last : Option Nat := none
  /-- For each kind of closing mark, how many marks from the start have nothing to offer. -/
  floors : List ((Char × Bool × Nat) × Nat) := []
  /-- The places of the marks that are in a pair. -/
  places : List Nat := []
  deriving Inhabited

namespace Pairing

/-- The nearest free mark before `k` that a closing mark can take. -/
def opener? (p : Pairing) (closer : Mark) (floor : Nat) : Nat → Option (Nat × Mark)
  | 0 => none
  | k + 1 =>
    if k + 1 ≤ floor then none
    else
      match p.marks[k]? with
      | none => none
      | some opener =>
        if opener.symbol == closer.symbol && opener.opens && !opener.isTaken &&
            opener.fits closer then some (k, opener)
        else p.opener? closer floor (k - p.jumps.getD k 0)
termination_by k => k
decreasing_by omega

/-- Makes a pair of the marks at `k` and `i`. -/
def join (p : Pairing) (k i : Nat) (opener closer : Mark) : Pairing :=
  let jump := match k with
    | 0 => 0
    | before + 1 =>
      if (p.marks[before]?.map Mark.opens).getD true then 0 else p.jumps.getD before 0 + 1
  { p with
    marks := (p.marks.setIfInBounds i { closer with opens := false }).setIfInBounds k
      { opener with isTaken := true, closes := false }
    jumps := (p.jumps.setIfInBounds i (i - k + jump)).setIfInBounds k jump
    last := none
    places := opener.place :: closer.place :: p.places }

/-- Takes in the mark at `i`. -/
def step (p : Pairing) (i : Nat) : Pairing :=
  match p.marks[i]? with
  | none => p
  | some mark =>
    let goesOn := (p.marks[p.runStart]?.map Mark.symbol) == some mark.symbol &&
      p.last.map (· + 1) == some mark.place
    let p := { p with
      jumps := p.jumps.push 0
      runStart := if goesOn then p.runStart else i
      last := some mark.place }
    if !mark.closes then p
    else
      let kind := (mark.symbol, mark.opens, mark.length % 3)
      let start := p.runStart - p.jumps.getD p.runStart 0
      match p.opener? mark ((p.floors.lookup kind).getD 0) start with
      | some (k, opener) => p.join k i opener mark
      | none => if start = 0 then p else { p with floors := (kind, start) :: p.floors }

end Pairing

/-- The places of the marks that are in a pair. -/
def paired (marks : List Mark) : List Nat :=
  ((List.range marks.length).foldl Pairing.step { marks := marks.toArray }).places

end Signpost.Markdown
