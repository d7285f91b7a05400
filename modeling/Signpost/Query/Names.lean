import Signpost.Table
import Signpost.Text.Basic
set_option autoImplicit false

/-!
# Names

Edited code may use other names than the indexed source: an alias stands for a canonical name.  A
name table translates in both directions and holds the two lists of blocked names.  A look-up is
blocked by the token as it was typed or by its canonical name.
-/

namespace Signpost.Query

/-- Aliases with their canonical names, and the names that never resolve. -/
structure NameTable where
  /-- Alias to canonical name. -/
  mapping : Table Text Text := []
  /-- Canonical names that never resolve. -/
  blockedCanonical : List Text := []
  /-- Tokens that never resolve as they are typed. -/
  blockedAlias : List Text := []
  deriving DecidableEq, Repr, Inhabited

namespace NameTable

/-- The canonical name of a token: itself, unless it is an alias. -/
def canonical (n : NameTable) (token : Text) : Text := (Table.get? n.mapping token).getD token

/-- Adds an alias to those of its canonical name. -/
def addAlias (inverse : Table Text (List Text)) (name canonical : Text) :
    Table Text (List Text) :=
  Table.insert inverse canonical ((Table.get? inverse canonical).getD [] ++ [name])

/-- Canonical name to its aliases. -/
def inverse (n : NameTable) : Table Text (List Text) :=
  n.mapping.foldl (fun t e => addAlias t e.1 e.2) []

/-- The aliases of a canonical name, in the order of the mapping. -/
def aliasesOf (n : NameTable) (canonical : Text) : List Text :=
  (Table.get? n.inverse canonical).getD []

/-- Whether a token may not resolve to a canonical name. -/
def isBlocked (n : NameTable) (asTyped canonical : Text) : Bool :=
  n.blockedAlias.contains asTyped || n.blockedCanonical.contains canonical

end NameTable

end Signpost.Query
