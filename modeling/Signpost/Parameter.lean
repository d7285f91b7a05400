import Signpost.Text.Blank
import Signpost.Literal
set_option autoImplicit false

/-!
# Parameters

A parameter has a name and may have a type hint and a default value, both kept as the text that
stood in the source.  `Parameter.render` writes one parameter; `Parameter.parse` reads a whole list.

A list is cut at its commas first.  A comma that stood inside a string default cuts that default in
two, so a segment that continues an open string is glued back to the parameter before it, with the
delimiter that was cut out.  Brackets are not matched: `x=[1, 2]` is two segments.
-/

namespace Signpost

open Text

/-- One entry of a parameter list. -/
structure Parameter where
  /-- The name, trimmed; empty if the segment has none. -/
  name : Text
  /-- What stands after the colon. -/
  typeHint : Option Text := none
  /-- What stands after the equals sign, unevaluated. -/
  defaultValue : Option Text := none
  deriving DecidableEq, Repr, Inhabited

namespace Parameter

/-- A parameter as it is shown: `name: hint = default`. -/
def render (p : Parameter) : Text :=
  p.name ++ (match p.typeHint with | none => [] | some h => ':' :: ' ' :: h) ++
    (match p.defaultValue with | none => [] | some d => ' ' :: '=' :: ' ' :: d)

/-- A parameter list as it is shown. -/
def renderList (ps : List Parameter) : Text := joinWith [',', ' '] (ps.map render)

/-- A piece of a parameter list with the delimiter before it.  A delimiter is a comma with the
blanks around it; the first segment has the empty one. -/
structure Segment where
  delimiter : Text
  body : Text
  deriving DecidableEq, Repr, Inhabited

/-- Makes segments of the pieces between commas.  `piece` is the current one, without the blanks
that `delimiter` has already taken. -/
def segmentsOf (delimiter piece : Text) : List Text → List Segment
  | [] => [⟨delimiter, piece⟩]
  | next :: rest =>
    let blanks := takeWhileEnd isBlank piece
    ⟨delimiter, trimRight piece⟩ ::
      segmentsOf (blanks ++ ',' :: next.takeWhile isBlank) (trimLeft next) rest

/-- The segments of a parameter list. -/
def segments (t : Text) : List Segment :=
  match splitAtEach (· == ',') t with
  | [] => []
  | piece :: rest => segmentsOf [] piece rest

/-- Whether a segment continues the default of the parameter before it: there is a default, and
either it ends inside a string or the segment is empty or starts with a quote. -/
def continuedBy (p : Parameter) (body : Text) : Bool :=
  match p.defaultValue with
  | none => false
  | some d => (match body with | [] => true | c :: _ => Literal.isQuote c) || Literal.endsOpen d

/-- A parameter whose default takes in a segment with its delimiter. -/
def absorb (p : Parameter) (s : Segment) : Parameter :=
  { p with defaultValue := p.defaultValue.map (· ++ s.delimiter ++ s.body) }

/-- Reads a trimmed segment: the first `=` starts the default, the first `:` before it the hint.  A
hint or default of blanks only counts as absent. -/
def ofSegment (body : Text) : Parameter :=
  let (left, default) := cutAt '=' body
  let (name, hint) := cutAt ':' left
  { name := trim name, typeHint := hint.bind trimmed?, defaultValue := default.bind trimmed? }

/-- The last parameter of a list: blanks after its default belong to nothing. -/
def closed (p : Parameter) : Parameter :=
  { p with defaultValue := p.defaultValue.map trim }

/-- A parameter, unless its name is blocked. -/
def unlessBlocked (blocked : List Text) (p : Parameter) : List Parameter :=
  if blocked.contains p.name then [] else [p]

/-- Reads segments one after the other; `current` is the parameter that may still be continued.  A
blocked parameter takes in its own continuations before it is dropped. -/
def parseSegments (blocked : List Text) : Option Parameter → List Segment → List Parameter
  | none, [] => []
  | some p, [] => unlessBlocked blocked p.closed
  | none, s :: rest =>
    match trim s.body with
    | [] => parseSegments blocked none rest
    | c :: cs => parseSegments blocked (some (ofSegment (c :: cs))) rest
  | some p, s :: rest =>
    if p.continuedBy s.body then parseSegments blocked (some (p.absorb s)) rest
    else
      match trim s.body with
      | [] => parseSegments blocked (some p) rest
      | c :: cs =>
        unlessBlocked blocked p ++ parseSegments blocked (some (ofSegment (c :: cs))) rest

/-- Reads the text between a header's parentheses; parameters with a blocked name are left out. -/
def parse (t : Text) (blocked : List Text) : List Parameter :=
  parseSegments blocked none (segments t)

end Parameter

end Signpost
