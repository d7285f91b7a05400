import Signpost.Json
import Signpost.Settings
import Signpost.Text.Case
set_option autoImplicit false

/-!
# Settings from the environment

A variable `DEFHINT__SECTION` holds a whole section as JSON, and `DEFHINT__SECTION__KEY` one key of
it; longer names go deeper.  Names are compared without regard to case.  The values of structured
keys are JSON, all others are the text as it stands.  Where both forms set something, the longer
name wins.
-/

namespace Signpost.Settings

open Text

/-- The variables of a process, in order. -/
abbrev Environment := Table Text Text

namespace Environment

/-- What the names of our variables start with, in lower case. -/
def mark : Text := "defhint__"

/-- The keys of each section, and whether a key's value is structured. -/
def sections : List (Text × List (Text × Bool)) :=
  [("logging", [("level", false), ("outputs", true)]),
   ("hints", [("mapping", true), ("blocked_canonical", true), ("blocked_alias", true),
     ("blocked_params", true), ("add_param_defaults", false), ("reserved_field_names", true)]),
   ("source", [("library_dir", false), ("entry_file", false), ("disable_from_root", false),
     ("msg_on_root_disabled", false)]),
   ("dialect", [("def_keyword", false), ("class_keyword", false), ("constructor_name", false)])]

/-- The variables with their names in lower case: of two with the same name the later counts. -/
def lowered (env : Environment) : Environment :=
  Table.ofPairs (env.map fun e => (lower e.1, e.2))

/-- Cuts a name at each pair of underscores. -/
def nameParts : Text → List Text
  | '_' :: '_' :: cs => [] :: nameParts cs
  | c :: cs =>
    match nameParts cs with
    | [] => [[c]]
    | part :: rest => (c :: part) :: rest
  | [] => [[]]

/-- Sets the value at a way through maps, making maps where nothing is; what is no map is kept. -/
def assign (v : Value) : (way : List Text) → Value → Value
  | [], here => here
  | [name], .map entries => .map (Table.insert entries (.str name) v)
  | name :: rest, .map entries =>
    .map (Table.insert entries (.str name)
      (assign v rest ((Value.lookup entries name).getD (.map []))))
  | _ :: _, here => here

section

variable (json : Text → Except Unread Value)

/-- The value of a variable: JSON if its key is structured and the text is not empty. -/
def valueOf (keys : List (Text × Bool)) (way : List Text) (t : Text) : Except Unread Value :=
  match way with
  | [key] =>
    if (Table.get? keys key).getD false && !t.isEmpty then json t else .ok (.str t)
  | _ => .ok (.str t)

/-- What the variables with longer names make of a section, one after the other. -/
def nested (keys : List (Text × Bool)) (start : Text) :
    Environment → Value → Except Unread Value
  | [], v => .ok v
  | (name, t) :: rest, v =>
    match afterPrefix? start name with
    | none => nested keys start rest v
    | some way =>
      (valueOf json keys (nameParts way) t).bind fun w =>
        nested keys start rest (assign w (nameParts way) v)

/-- Gives each key that is known its own spelling, whatever case it came in; of two that are the
same then the later counts. -/
def spelled (known : List Text) (entries : Entries) : Entries :=
  Table.ofPairs (entries.map fun e =>
    match e.1 with
    | .str t => if known.contains (lower t) then (.str (lower t), e.2) else e
    | _ => e)

/-- The value of a section, if the environment has one.  Variables with longer names do not count
beside a section that is no map. -/
def sectionValue (env : Environment) (name : Text) (keys : List (Text × Bool)) :
    Except Unread (Option Value) :=
  let start := mark ++ name
  let nested := nested json keys (start ++ "__") env (.map [])
  match Table.get? env start with
  | none =>
    match nested with
    | .error why => .error why
    | .ok (.map []) => .ok none
    | .ok (.map entries) => .ok (some (.map (spelled (Table.keys keys) entries)))
    | .ok _ => .ok none
  | some t =>
    match json t with
    | .error why => .error why
    | .ok .null => .ok none
    | .ok (.map entries) =>
      match nested with
      | .error why => .error why
      | .ok (.map above) =>
        .ok (some (.map (spelled (Table.keys keys) (Value.merge entries above))))
      | .ok _ => .ok none
    | .ok v => .ok (some v)

/-- The sections that the environment sets, in order; or the name of the first that cannot be read,
and why. -/
def entriesFrom (env : Environment) :
    List (Text × List (Text × Bool)) → Except (Text × Unread) Entries
  | [] => .ok []
  | (name, keys) :: rest =>
    match sectionValue json env name keys with
    | .error why => .error (name, why)
    | .ok none => entriesFrom env rest
    | .ok (some v) => (entriesFrom env rest).map fun es => (.str name, v) :: es

/-- The settings that the environment makes, its JSON read in some way. -/
def entriesWith (env : Environment) : Except (Text × Unread) Entries :=
  entriesFrom json (lowered env) sections

end

/-- The settings that the environment makes. -/
def entries (env : Environment) : Except (Text × Unread) Entries := entriesWith Json.parse env

end Environment

end Signpost.Settings
