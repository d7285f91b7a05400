import Signpost.Text.Margin
import Signpost.Definition
set_option autoImplicit false

/-!
# Hover content

What is shown for a definition: its name and kind, its signature and parameters, and its
description without the indentation of the block it came from.  Degenerate definitions show nothing.
-/

namespace Signpost.Query

open Text

/-- The content shown for a definition. -/
structure Hover where
  name : Text
  kind : Kind
  signature : Text
  parameters : List Parameter
  description : Option Text
  deriving DecidableEq, Repr, Inhabited

namespace Hover

/-- The description of a definition as it is shown; an empty one counts as absent. -/
def descriptionOf (d : Definition) : Option Text :=
  match withoutMargin (d.description.getD []) with
  | [] => none
  | c :: cs => some (c :: cs)

/-- The content for a definition, if its header could be read. -/
def of? (d : Definition) : Option Hover :=
  match d.name, d.kind with
  | some name, some kind =>
    some
      { name, kind
        signature := d.signature
        parameters := d.parameterList
        description := descriptionOf d }
  | _, _ => none

/-- Why a definition has no content where there should be some. -/
inductive Fault where
  /-- It has a name and is of no kind. -/
  | noKind
  deriving DecidableEq, Repr, Inhabited

/-- The content for a definition from anywhere.  What has a name is expected to be of some kind. -/
def ofAny (d : Definition) : Except Fault (Option Hover) :=
  if d.name.isSome && d.kind.isNone then .error .noKind else .ok (of? d)

/-- The lines of the parameter section: a heading and a fenced list. -/
def parameterLines (ps : List Parameter) : List Text :=
  match ps with
  | [] => []
  | _ :: _ =>
    (["### Parameters:", "```python"] : List Text) ++ ps.map (fun p => ' ' :: ' ' :: p.render) ++
      [("```" : Text)]

/-- The content as marked-up text. -/
def markdown (h : Hover) : Text :=
  joinWith ['\n']
    ((["**" ++ h.name ++ "** (*" ++ h.kind.word ++ "*)", []] : List Text) ++
      parameterLines h.parameters ++
      (match h.description with | none => [] | some d => [[], d]))

end Hover

end Signpost.Query
