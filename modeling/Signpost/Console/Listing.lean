import Signpost.Console.Markup
import Signpost.Definition
import Signpost.Path
import Signpost.Value
set_option autoImplicit false

/-!
# Index listings

An index as it is listed on the console and as data.  The listing has a heading and a line for each
definition, with the methods of a class indented below it.  Its lines carry markup.
-/

namespace Signpost

open Text

namespace Parameter

/-- A parameter as data. -/
def toValue (p : Parameter) : Value :=
  let ofOption (t : Option Text) : Value := match t with | none => .null | some t => .str t
  .map [(.str "name", .str p.name), (.str "type_hint", ofOption p.typeHint),
    (.str "default_value", ofOption p.defaultValue)]

end Parameter

namespace Definition

/-- An optional text as data. -/
def ofOptional : Option Text → Value
  | none => .null
  | some t => .str t

/-- The entries that describe a definition apart from its children. -/
def ownEntries (d : Definition) : List (Key × Value) :=
  [(.str "raw_source", .str d.source), (.str "name", ofOptional d.name),
    (.str "kind", ofOptional (d.kind.map Kind.word)), (.str "keyword", ofOptional d.keyword),
    (.str "description", ofOptional d.description)] ++
  (match d.parameters with
    | none => []
    | some ps => [(.str "parameters", .list (ps.map Parameter.toValue))])

mutual

/-- A definition as data; a degenerate one has its source only. -/
def toValue : Definition → Value
  | ⟨source, name, kind, keyword, description, parameters, children⟩ =>
    match name with
    | none => .map [(.str "raw_source", .str source)]
    | some _ =>
      .map (ownEntries ⟨source, name, kind, keyword, description, parameters, none⟩ ++
        match children with
        | none => []
        | some members => [(.str "children", .map (membersToEntries members))])

/-- Definitions by name as data. -/
def membersToEntries : List (Text × Definition) → List (Key × Value)
  | [] => []
  | (name, d) :: rest => (.str name, toValue d) :: membersToEntries rest

end

end Definition

/-- An index as data. -/
def Index.toValue (index : Index) : Value := .map (Definition.membersToEntries index)

namespace Console

/-- How much deeper the methods of a class are listed. -/
def memberIndent : Text := "    "

mutual

/-- The lines for a definition and its members. -/
def definitionLines (indent name : Text) : Definition → List Text
  | ⟨source, definedName, kind, keyword, description, parameters, children⟩ =>
    match definedName with
    | none => [indent ++ "[dim]" ++ name ++ "[/dim] [yellow](unparsed header)[/yellow]"]
    | some _ =>
      let d : Definition := ⟨source, definedName, kind, keyword, description, parameters, none⟩
      (indent ++ "[cyan]" ++ d.signature ++ "[/cyan]") ::
        match children with
        | none => []
        | some members => memberLines (indent ++ memberIndent) members

/-- The lines for definitions, in order. -/
def memberLines (indent : Text) : List (Text × Definition) → List Text
  | [] => []
  | (name, d) :: rest => definitionLines indent name d ++ memberLines indent rest

end

/-- The lines of a listing, with their markup. -/
def listing (source : Path) (index : Index) : List Text :=
  match index with
  | [] => ["[yellow]No definitions[/yellow] in " ++ source.text]
  | _ :: _ =>
    ("[bold]" ++ source.text ++ "[/bold]: " ++ ofNat index.length ++ " definitions\n") ::
      memberLines "  " index

/-- What lines with markup show, up to the first whose tags are wrong; and what is wrong with
it. -/
def printed : List Text → Text × Option MarkupFault
  | [] => ([], none)
  | line :: rest =>
    match visible line with
    | .error fault => ([], some fault)
    | .ok shown =>
      let (more, fault) := printed rest
      (shown ++ '\n' :: more, fault)

end Console

end Signpost
