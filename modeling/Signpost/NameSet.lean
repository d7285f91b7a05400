import Signpost.Text.Basic
set_option autoImplicit false

/-!
# Sets of names

A set of names is kept as its members in code point order, each once, so that two sets with the
same members are the same set.
-/

namespace Signpost

/-- Whether a text comes before another in code point order. -/
def Text.precedes : Text → Text → Bool
  | _, [] => false
  | [], _ :: _ => true
  | a :: s, b :: t => a.toNat < b.toNat || (a == b && precedes s t)

/-- The members of a set, in code point order and each once. -/
abbrev NameSet := List Text

namespace NameSet

/-- A set with one more member. -/
def insert (name : Text) : NameSet → NameSet
  | [] => [name]
  | n :: ns =>
    if name = n then n :: ns
    else if Text.precedes name n then name :: n :: ns
    else n :: insert name ns

/-- The set of the names in a list. -/
def ofList (names : List Text) : NameSet := names.foldl (fun s n => insert n s) []

end NameSet

end Signpost
