import Signpost.NameSet
set_option autoImplicit false

/-!
# Likeness of texts

How much two texts have in common, to find what somebody meant who mistyped a word.  The longest
piece that both texts hold is common to them, and then, again and again, the longest pieces of what
is left of it and of what is right of it.  Two texts are close if what they have in common makes up
three fifths of both taken together.
-/

namespace Signpost.Text

/-- How many characters two texts start with in common. -/
def sharedStart : Text → Text → Nat
  | a :: s, b :: t => if a = b then sharedStart s t + 1 else 0
  | _, _ => 0

/-- A piece that two texts share: where it starts in each, and its length. -/
structure Shared where
  inFirst : Nat := 0
  inSecond : Nat := 0
  length : Nat := 0
  deriving DecidableEq, Repr, Inhabited

/-- The longest piece that two texts share; of several, the one that starts first in `s`, and then
first in `t`. -/
def longestShared (s t : Text) : Shared :=
  (List.range s.length).foldl
    (fun best i =>
      (List.range t.length).foldl
        (fun best j =>
          let n := sharedStart (s.drop i) (t.drop j)
          if best.length < n then ⟨i, j, n⟩ else best)
        best)
    {}

/-- How many characters two texts have in common; `fuel` bounds the number of cuts. -/
def commonWithin : (fuel : Nat) → Text → Text → Nat
  | 0, _, _ => 0
  | fuel + 1, s, t =>
    let m := longestShared s t
    if m.length = 0 then 0
    else
      m.length + commonWithin fuel (s.take m.inFirst) (t.take m.inSecond) +
        commonWithin fuel (s.drop (m.inFirst + m.length)) (t.drop (m.inSecond + m.length))

/-- How many characters two texts have in common, in order.  Each cut takes a character away, so as
many cuts as the first text has characters are enough. -/
def common (s t : Text) : Nat := commonWithin s.length s t

/-- Whether two texts are close. -/
def isClose (s t : Text) : Bool := 3 * (s.length + t.length) ≤ 10 * common s t

/-- The candidates that are close to a word, in code point order. -/
def closeTo (word : Text) (candidates : List Text) : List Text :=
  NameSet.ofList (candidates.filter (isClose · word))

end Signpost.Text
