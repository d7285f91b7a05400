import Signpost.Definition
set_option autoImplicit false

/-!
# Completions

The texts offered at a call or after a namespace: `name=` for each parameter, `name=default` beside
it when that is asked for, and the names of the members of a class.
-/

namespace Signpost.Query

/-- What is left out of completions, and whether defaults are offered. -/
structure CompletionRules where
  /-- Parameters that are never offered. -/
  blockedParameters : List Text := []
  /-- Whether `name=default` is offered too. -/
  offerDefaults : Bool := false
  /-- Members that are never offered. -/
  reservedMembers : List Text := []
  deriving DecidableEq, Repr, Inhabited

namespace CompletionRules

/-- The offers for one parameter. -/
def forParameter (r : CompletionRules) (p : Parameter) : List Text :=
  if r.blockedParameters.contains p.name then []
  else
    (p.name ++ ['=']) ::
      match r.offerDefaults, p.defaultValue with
      | true, some d => [p.name ++ '=' :: d]
      | _, _ => []

/-- The member names on offer. -/
def forMembers (r : CompletionRules) (d : Definition) : List Text :=
  match d.children with
  | none => []
  | some members => (Table.keys members).filter fun n => !r.reservedMembers.contains n

/-- All offers for a definition; none if its header could not be read. -/
def items (r : CompletionRules) (d : Option Definition) : List Text :=
  match d with
  | none => []
  | some d =>
    if d.isDegenerate then []
    else d.parameterList.flatMap r.forParameter ++ r.forMembers d

end CompletionRules

end Signpost.Query
