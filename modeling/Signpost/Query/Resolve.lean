import Signpost.Definition
import Signpost.Query.Names
set_option autoImplicit false

/-!
# Resolution

Which definition a token stands for, given the path to its left: a top-level name first, then a
member of what the path names.  With no token at all the path itself is meant.
-/

namespace Signpost.Query

/-- The top-level definition of a token, unless it is blocked. -/
def topLevel? (index : Index) (names : NameTable) (token : Text) : Option Definition :=
  let name := names.canonical token
  if names.isBlocked token name then none else Table.get? index name

/-- The definition that `token` stands for after the path `context`. -/
def resolve (index : Index) (names : NameTable) (token context : Text) : Option Definition :=
  match topLevel? index names token with
  | some d => some d
  | none =>
    match topLevel? index names context with
    | none => none
    | some owner =>
      if token.isEmpty then some owner
      else
        let name := names.canonical token
        if names.isBlocked token name then none
        else owner.children.bind (Table.get? · name)

end Signpost.Query
