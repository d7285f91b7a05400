set_option autoImplicit false

/-!
# Tables

A table keeps its entries in the order in which their keys first came.  Giving a key a new value
leaves the key where it is; a new key goes to the end.  Keys are compared with `==`.
-/

namespace Signpost

/-- Keys with their values, in the order in which the keys first came. -/
abbrev Table (α β : Type) := List (α × β)

namespace Table

variable {α β : Type} [BEq α]

/-- The value of a key. -/
def get? : Table α β → α → Option β
  | [], _ => none
  | (a, b) :: rest, k => if a == k then some b else get? rest k

/-- Whether a key has a value. -/
def contains (t : Table α β) (k : α) : Bool := (get? t k).isSome

/-- Gives a key a value: in place if it had one, at the end otherwise. -/
def insert : Table α β → α → β → Table α β
  | [], k, v => [(k, v)]
  | (a, b) :: rest, k, v => if a == k then (a, v) :: rest else (a, b) :: insert rest k v

/-- Changes the value of a key, if it has one. -/
def modify (f : β → β) : Table α β → α → Table α β
  | [], _ => []
  | (a, b) :: rest, k => if a == k then (a, f b) :: rest else (a, b) :: modify f rest k

/-- A table without a key. -/
def erase : Table α β → α → Table α β
  | [], _ => []
  | (a, b) :: rest, k => if a == k then rest else (a, b) :: erase rest k

/-- The keys, in order. -/
def keys (t : Table α β) : List α := t.map Prod.fst

/-- A table with the entries of another put in, one after the other. -/
def update (t u : Table α β) : Table α β := u.foldl (fun t e => insert t e.1 e.2) t

/-- The table that a list of pairs describes: a later pair for the same key wins. -/
def ofPairs (pairs : List (α × β)) : Table α β := update [] pairs

end Table

end Signpost
