import Signpost.Text.Word
import Signpost.Definition
set_option autoImplicit false

/-!
# Headers

A block starts with its header.  `Header.start?` tells from a single line whether one starts there;
`Header.parse?` reads the whole header of a trimmed block, and `Definition.ofBlock` makes a
definition of the block.

A function header ends with the last closing parenthesis of its line.  A class header may leave the
parentheses out, and ends with a colon: its parentheses end at the last closing one of the line
that is followed by a colon.  A parameter list never goes over the end of its line.
-/

namespace Signpost

open Text

/-- What a header says. -/
structure Header where
  kind : Kind
  name : Text
  /-- The text between the parentheses. -/
  parameterText : Text
  deriving DecidableEq, Repr, Inhabited

namespace Header

/-- Reads a keyword, at least one blank and a name; gives the name and what follows it. -/
def named? (keyword t : Text) : Option (Text × Text) :=
  match afterPrefix? keyword t with
  | none => none
  | some rest =>
    match rest with
    | [] => none
    | c :: _ =>
      if isBlank c then
        let body := trimLeft rest
        match leadingWord body with
        | [] => none
        | w :: ws => some (w :: ws, body.dropWhile isWordChar)
      else none

/-- The kind and name of the header that starts on a line, if one does. -/
def start? (d : Dialect) (line : Text) : Option (Kind × Text) :=
  match named? d.functionKeyword (trimLeft line) with
  | some (name, _) => some (.func, name)
  | none =>
    match named? d.classKeyword (trimLeft line) with
    | some (name, _) => some (.cls, name)
    | none => none

/-- What precedes the last `)` of the first line after which `accepts` holds of the text. -/
def beforeLastClose (accepts : Text → Bool) : Text → Option Text
  | [] => none
  | c :: cs =>
    if c = '\n' then none
    else
      match beforeLastClose accepts cs with
      | some t => some (c :: t)
      | none => if c = ')' ∧ accepts cs then some [] else none

/-- Whether a colon follows, after blanks. -/
def colonFollows (t : Text) : Bool := (trimLeft t).head? == some ':'

/-- The parameter text of a function, from what follows its name. -/
def functionParameters? (rest : Text) : Option Text :=
  match trimLeft rest with
  | '(' :: t => beforeLastClose (fun _ => true) t
  | _ => none

/-- The parameter text of a class, from what follows its name. -/
def classParameters? (rest : Text) : Option Text :=
  match trimLeft rest with
  | '(' :: t => beforeLastClose colonFollows t
  | ':' :: _ => some []
  | _ => none

/-- Reads the header of a trimmed block. -/
def parse? (d : Dialect) (source : Text) : Option Header :=
  match named? d.functionKeyword source with
  | some (name, rest) => (functionParameters? rest).map (⟨.func, name, ·⟩)
  | none =>
    match named? d.classKeyword source with
    | some (name, rest) => (classParameters? rest).map (⟨.cls, name, ·⟩)
    | none => none

end Header

/-- What precedes the first occurrence of `mark`. -/
def Text.until? (mark : Text) : Text → Option Text
  | [] => if mark.isEmpty then some [] else none
  | c :: cs =>
    if startsWith (c :: cs) mark then some []
    else (until? mark cs).map (c :: ·)

/-- The marks that a description may stand between. -/
def descriptionMarks : List Text := ["'''", "\"\"\""]

/-- The description that starts right here, if one does: a mark, and a text up to the same mark. -/
def descriptionHere? (t : Text) : Option Text :=
  descriptionMarks.findSome? fun mark => (afterPrefix? mark t).bind (until? mark)

/-- The first description of a text: that of the first place where one starts. -/
def description? : Text → Option Text
  | [] => none
  | c :: cs =>
    match descriptionHere? (c :: cs) with
    | some d => some d
    | none => description? cs

/-- The definition that a block describes; degenerate if its header cannot be read. -/
def Definition.ofBlock (d : Dialect) (blocked : List Text) (block : Text) : Definition :=
  let source := trim block
  match Header.parse? d source with
  | none => degenerate source
  | some h =>
    { source
      name := some h.name
      kind := some h.kind
      keyword := some (d.keyword h.kind)
      description := some ((description? source).getD [])
      parameters := some (Parameter.parse h.parameterText blocked)
      children := match h.kind with | .cls => some [] | .func => none }

end Signpost
