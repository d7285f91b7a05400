import Signpost.Yaml.Scalar
set_option autoImplicit false

/-!
# Nodes of a settings file

A settings file as it is written, before its scalars are taken for values.  Two plain scalars have a
meaning of their own.  The key `<<` puts the entries of the map that follows, or of each map in the
list that follows, before all others; earlier maps of such a list win over later ones.  The scalar
`=` is a key only.  As anything else, both are out of place.
-/

namespace Signpost.Yaml

/-- What a settings file is made of. -/
inductive Node where
  /-- A scalar, and whether it is plain. -/
  | scalar (t : Text) (isPlain : Bool)
  | list (items : List Node)
  | map (entries : List (Node × Node))
  deriving Repr, Inhabited

namespace Node

/-- What stands where nothing is written. -/
def empty : Node := .scalar [] true

/-- The key that merges maps. -/
def mergeKey : Text := "<<"

/-- The key for a value without a name. -/
def valueKey : Text := "="

/-- Whether a node is the key that merges maps. -/
def isMergeKey : Node → Bool
  | .scalar t isPlain => isPlain && t == mergeKey
  | _ => false

/-- The value of a scalar. -/
def scalarValue (t : Text) (isPlain : Bool) : Except Unread Value :=
  if isPlain then
    if t = mergeKey ∨ t = valueKey then .error .malformed else plainValue t
  else .ok (.str t)

/-- The key that a value is; lists and maps are no keys. -/
def keyOf (v : Value) : Except Unread Key := Unread.orMalformed v.key?

/-- Puts the maps of a list together: those in front win, and so come last. -/
def merged (maps : List (List (Key × Value))) : List (Key × Value) := maps.reverse.flatten

mutual

/-- The value of a node. -/
def value : Node → Except Unread Value
  | .scalar t isPlain => scalarValue t isPlain
  | .list items => (values items).map .list
  | .map entries => (pairs entries).map fun (before, own) => .map (Table.ofPairs (before ++ own))

/-- The values of nodes. -/
def values : List Node → Except Unread (List Value)
  | [] => .ok []
  | n :: rest => (Unread.both (value n) (values rest)).map fun (v, vs) => v :: vs

/-- The key that a node is. -/
def key : Node → Except Unread Key
  | .scalar t isPlain =>
    if isPlain ∧ t = valueKey then .ok (.str t) else (scalarValue t isPlain).bind keyOf
  | .list items => (values items).bind fun vs => keyOf (.list vs)
  | .map entries => (pairs entries).bind fun _ => keyOf (.map [])

/-- The entries of a map: first those that are merged into it, then its own. -/
def pairs : List (Node × Node) → Except Unread (List (Key × Value) × List (Key × Value))
  | [] => .ok ([], [])
  | (k, v) :: rest =>
    if k.isMergeKey then
      (Unread.both (mergedIn v) (pairs rest)).map fun (more, before, own) => (more ++ before, own)
    else
      (Unread.both (Unread.both (key k) (value v)) (pairs rest)).map
        fun (entry, before, own) => (before, entry :: own)

/-- The entries that a node brings when it is merged: those of a map, or of a list of maps. -/
def mergedIn : Node → Except Unread (List (Key × Value))
  | .scalar _ _ => .error .malformed
  | .map entries => (pairs entries).map fun (before, own) => before ++ own
  | .list items => (mergedItems items).map merged

/-- The entries of maps that are merged. -/
def mergedItems : List Node → Except Unread (List (List (Key × Value)))
  | [] => .ok []
  | n :: rest =>
    match n with
    | .map entries =>
      (Unread.both (pairs entries) (mergedItems rest)).map
        fun ((before, own), maps) => (before ++ own) :: maps
    | _ => .error .malformed

end

end Node

end Signpost.Yaml
