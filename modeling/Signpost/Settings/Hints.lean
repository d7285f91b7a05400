import Signpost.NameSet
import Signpost.Text.Identifier
import Signpost.Settings.Check
set_option autoImplicit false

/-!
# Hint settings

The alias table, the names that never resolve, and what completions leave out.
-/

namespace Signpost.Settings

open Check

/-- Name mapping and filtering. -/
structure Hints where
  /-- Alias to canonical name. -/
  mapping : Table Text Text := []
  /-- Canonical names that never resolve. -/
  blockedCanonical : NameSet := []
  /-- Tokens that never resolve as they are typed. -/
  blockedAlias : NameSet := []
  /-- Parameters left out of the index and of completions. -/
  blockedParameters : NameSet := ["self"]
  /-- Whether `name=default` is offered beside `name=`. -/
  addDefaults : Bool := false
  /-- Members that are never offered. -/
  reservedMembers : NameSet := []
  deriving DecidableEq, Repr, Inhabited

/-- A set of names, given as a list. -/
def checkNameSet : Value → Check NameSet
  | .list vs => NameSet.ofList <$> items Check.text 0 vs
  | v => fault .notSet v

/-- Checks the types in an alias table: every key and every value is a text. -/
def checkPairs : Entries → Check (List (Text × Text))
  | [] => .valid []
  | (.str name, v) :: rest =>
    (fun canonical pairs => (name, canonical) :: pairs) <$>
      (Check.text v).under (.key name) <*> checkPairs rest
  | (k, v) :: rest =>
    (fun (_ : Text) (_ : Text) (pairs : List (Text × Text)) => pairs) <$>
      ((fault .notText (keyValue k)).under (.key "[key]")).under (stepTo k) <*>
      (Check.text v).under (stepTo k) <*> checkPairs rest

/-- The first rule that an alias table breaks: both names of a pair are identifiers, and they
differ. -/
def brokenPair? : List (Text × Text) → Option Rule
  | [] => none
  | (name, canonical) :: rest =>
    if !Text.isIdentifier name then some (.identifier .aliasName name)
    else if !Text.isIdentifier canonical then some (.identifier .canonicalName canonical)
    else if name = canonical then some (.distinctAlias name)
    else brokenPair? rest

/-- Checks an alias table. -/
def checkMapping : Value → Check (Table Text Text)
  | .map entries =>
    (checkPairs entries).andThen fun pairs =>
      match brokenPair? pairs with
      | none => .valid (Table.ofPairs pairs)
      | some rule => fault (.broken rule) (.map entries)
  | v => fault .notMap v

/-- The keys of the hint settings, in order. -/
def hintKeys : List Text :=
  ["mapping", "blocked_canonical", "blocked_alias", "blocked_params", "add_param_defaults",
   "reserved_field_names"]

/-- Checks the entries of the hint settings. -/
def checkHintEntries (entries : Entries) : Check Hints :=
  (fun mapping blockedCanonical blockedAlias blockedParameters addDefaults reservedMembers _ =>
      { mapping, blockedCanonical, blockedAlias, blockedParameters, addDefaults,
        reservedMembers }) <$>
    field entries "mapping" [] checkMapping <*>
    field entries "blocked_canonical" [] checkNameSet <*>
    field entries "blocked_alias" [] checkNameSet <*>
    field entries "blocked_params" ["self"] checkNameSet <*>
    field entries "add_param_defaults" false Check.bool <*>
    field entries "reserved_field_names" [] checkNameSet <*>
    noOthers hintKeys entries

/-- Checks the hint settings. -/
def checkHints : Value → Check Hints := ofSection "HintsConfig" checkHintEntries

/-- A set of names as data. -/
def ofNameSet (s : NameSet) : Value := .list (s.map .str)

/-- The hint settings as data. -/
def Hints.toValue (h : Hints) : Value :=
  .map [(.str "mapping", .map (h.mapping.map fun e => (.str e.1, .str e.2))),
    (.str "blocked_canonical", ofNameSet h.blockedCanonical),
    (.str "blocked_alias", ofNameSet h.blockedAlias),
    (.str "blocked_params", ofNameSet h.blockedParameters),
    (.str "add_param_defaults", .bool h.addDefaults),
    (.str "reserved_field_names", ofNameSet h.reservedMembers)]

end Signpost.Settings
