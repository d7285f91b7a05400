import Signpost.Table
import Signpost.Dialect
import Signpost.Parameter
set_option autoImplicit false

/-!
# Definitions

What the index keeps of a function or class.  A definition whose header could not be read is
*degenerate*: it has its source and nothing else.  That is different from a definition without
parameters, and so every other field is optional.
-/

namespace Signpost

/-- An indexed function or class. -/
structure Definition where
  /-- The trimmed text of the whole block. -/
  source : Text
  /-- The name in the header; a degenerate definition has none. -/
  name : Option Text := none
  /-- Function or class. -/
  kind : Option Kind := none
  /-- The keyword in the header. -/
  keyword : Option Text := none
  /-- The first triple-quoted string of the block. -/
  description : Option Text := none
  /-- The parameters, in order. -/
  parameters : Option (List Parameter) := none
  /-- The methods of a class by name, in order of first appearance. -/
  children : Option (List (Text × Definition)) := none
  deriving Repr, Inhabited, BEq

/-- Definitions by name, in order of first appearance. -/
abbrev Index := Table Text Definition

namespace Definition

/-- A definition of which only the source is known. -/
def degenerate (source : Text) : Definition := { source }

/-- Whether the header could not be read. -/
def isDegenerate (d : Definition) : Bool := d.name.isNone

/-- The parameters as a list; empty when there are none to know. -/
def parameterList (d : Definition) : List Parameter := d.parameters.getD []

/-- The word shown for a missing name or keyword. -/
def missingWord : Text := "None"

/-- The header as it is shown: `keyword name(parameters)`. -/
def signature (d : Definition) : Text :=
  d.keyword.getD missingWord ++ ' ' :: (d.name.getD missingWord ++
    '(' :: (Parameter.renderList d.parameterList ++ [')']))

/-- Adds or replaces a method of a class; anything else has no methods. -/
def withChild (d : Definition) (name : Text) (child : Definition) : Definition :=
  { d with children := d.children.map (Table.insert · name child) }

/-- A class without parameters of its own takes those of its constructor, if that one could be
read. -/
def adoptConstructor (constructorName : Text) (d : Definition) : Definition :=
  match d.children with
  | none => d
  | some members =>
    match d.parameterList, (Table.get? members constructorName).bind (·.parameters) with
    | [], some ps => { d with parameters := some ps }
    | _, _ => d

end Definition

end Signpost
