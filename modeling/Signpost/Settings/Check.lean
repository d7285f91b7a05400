import Signpost.Value
set_option autoImplicit false

/-!
# Checking data

Settings come in as plain values and are checked field by field.  A check collects every fault that
it finds, in the order of the fields; keys that no field has come last.  A fault says where it is,
why it is one, and what value stood there.
-/

namespace Signpost.Settings

open Text

/-- One step on the way to a value. -/
inductive Step where
  /-- The entry under a key. -/
  | key (name : Text)
  /-- The item at a position of a list. -/
  | item (position : Nat)
  deriving DecidableEq, Repr, Inhabited

/-- The text of a step. -/
def Step.text : Step → Text
  | .key name => name
  | .item position => ofNat position

/-- What a name in the settings is the name of. -/
inductive Role where
  | aliasName
  | canonicalName
  | keyword
  deriving DecidableEq, Repr, Inhabited

/-- The words for a role. -/
def Role.words : Role → Text
  | .aliasName => "Alias"
  | .canonicalName => "Canonical name"
  | .keyword => "Dialect keyword"

/-- A rule that a value of the right type breaks. -/
inductive Rule where
  /-- A log file is given by an absolute path. -/
  | absoluteDestination (given : Text)
  /-- Names are identifiers. -/
  | identifier (role : Role) (given : Text)
  /-- An alias stands for another name. -/
  | distinctAlias (name : Text)
  /-- A library is found by plain names. -/
  | plainName (given : Text)
  /-- Functions and classes have different keywords. -/
  | distinctKeywords
  /-- The name of a user has no null character. -/
  | userName
  deriving DecidableEq, Repr, Inhabited

/-- The wording of a broken rule. -/
def Rule.message : Rule → Text
  | .absoluteDestination given => "File destination must be absolute path: " ++ given
  | .identifier role given => role.words ++ " must be an identifier, got " ++ quoted given
  | .distinctAlias name => "Alias " ++ quoted name ++ " maps to itself"
  | .plainName given => "Must be a plain file or directory name, got " ++ quoted given
  | .distinctKeywords => "def_keyword and class_keyword must differ"
  | .userName => "embedded null byte"

/-- Why a value is refused. -/
inductive Cause where
  /-- Not a text. -/
  | notText
  /-- Not a truth value, nor anything that could stand for one. -/
  | notBool
  /-- A text or number that stands for no truth value. -/
  | unreadableBool
  /-- Not a map. -/
  | notMap
  /-- Not a list. -/
  | notList
  /-- Not a list where a set is wanted. -/
  | notSet
  /-- None of the given words. -/
  | notOneOf (words : List Text)
  /-- Not a map where a section is wanted; the section's name. -/
  | notSection (name : Text)
  /-- A key that no field has. -/
  | unknownKey
  /-- A key that is no text. -/
  | keyNotText
  /-- A broken rule. -/
  | broken (rule : Rule)
  /-- A home directory that nobody has.  This one ends the whole check. -/
  | unknownHome
  deriving DecidableEq, Repr, Inhabited

/-- Words as alternatives: quoted, with commas and a final "or". -/
def alternatives : List Text → Text
  | [] => []
  | [w] => quoted w
  | [v, w] => quoted v ++ " or " ++ quoted w
  | w :: ws => quoted w ++ ", " ++ alternatives ws

/-- The wording of a cause. -/
def Cause.message : Cause → Text
  | .notText => "Input should be a valid string"
  | .notBool => "Input should be a valid boolean"
  | .unreadableBool => "Input should be a valid boolean, unable to interpret input"
  | .notMap => "Input should be a valid dictionary"
  | .notList => "Input should be a valid list"
  | .notSet => "Input should be a valid set"
  | .notOneOf words => "Input should be " ++ alternatives words
  | .notSection name => "Input should be a valid dictionary or instance of " ++ name
  | .unknownKey => "Extra inputs are not permitted"
  | .keyNotText => "Keys should be strings"
  | .broken rule => "Value error, " ++ rule.message
  | .unknownHome => "Could not determine home directory."

/-- A fault: where it is, why it is one, and the value that stood there. -/
structure Fault where
  place : List Step
  cause : Cause
  given : Value
  deriving Repr, Inhabited

/-- The place of a fault as it is shown. -/
def Fault.field (f : Fault) : Text := joinWith ['.'] (f.place.map Step.text)

/-- The same fault, one step further in. -/
def Fault.under (step : Step) (f : Fault) : Fault := { f with place := step :: f.place }

/-- The outcome of a check: a result, or the faults found, of which there is at least one. -/
inductive Check (α : Type) where
  | valid (result : α)
  | invalid (first : Fault) (others : List Fault)

namespace Check

variable {α β : Type}

/-- Applies a checked function to a checked argument; the faults of both count. -/
def apply (f : Check (α → β)) (a : Check α) : Check β :=
  match f, a with
  | .valid f, .valid a => .valid (f a)
  | .valid _, .invalid e es => .invalid e es
  | .invalid e es, .valid _ => .invalid e es
  | .invalid e es, .invalid e' es' => .invalid e (es ++ e' :: es')

instance : Applicative Check where
  pure := .valid
  seq f a := apply f (a ())

/-- One fault, at the value itself. -/
def fault (cause : Cause) (given : Value) : Check α := .invalid ⟨[], cause, given⟩ []

/-- The same check, one step further in. -/
def under (step : Step) : Check α → Check α
  | .valid a => .valid a
  | .invalid first others => .invalid (first.under step) (others.map (Fault.under step))

/-- A further check on a result. -/
def andThen (c : Check α) (f : α → Check β) : Check β :=
  match c with
  | .valid a => f a
  | .invalid first others => .invalid first others

/-- Checks the items of a list one after the other, from position `position` on. -/
def items (check : Value → Check α) (position : Nat) : List Value → Check (List α)
  | [] => .valid []
  | v :: vs => List.cons <$> (check v).under (.item position) <*> items check (position + 1) vs

/-- A text. -/
def text : Value → Check Text
  | .str t => .valid t
  | v => fault .notText v

/-- A text that satisfies a rule. -/
def textWith (holds : Text → Bool) (rule : Text → Rule) (v : Value) : Check Text :=
  (text v).andThen fun t => if holds t then .valid t else fault (.broken (rule t)) v

/-- The words that stand for a truth value, in lower case. -/
def boolOfWord? (word : Text) : Option Bool :=
  if (["1", "on", "t", "true", "y", "yes"] : List Text).contains word then some true
  else if (["0", "off", "f", "false", "n", "no"] : List Text).contains word then some false
  else none

/-- Whether a number fits into a machine word of 64 bits with a sign. -/
def fitsWord (i : Int) : Bool := -9223372036854775808 ≤ i && i ≤ 9223372036854775807

/-- A truth value: as such, as zero or one, or as a word in any case.  A number too large for a
machine word is not even looked at. -/
def bool (v : Value) : Check Bool :=
  match v with
  | .bool b => .valid b
  | .int i =>
    if i = 0 then .valid false
    else if i = 1 then .valid true
    else if fitsWord i then fault .unreadableBool v
    else fault .notBool v
  | .str t =>
    match boolOfWord? (lowerAscii t) with
    | some b => .valid b
    | none => fault .unreadableBool v
  | _ => fault .notBool v

/-- One of some words, each with its meaning. -/
def oneOf (words : List (Text × α)) (v : Value) : Check α :=
  match v with
  | .str t =>
    match Table.get? words t with
    | some a => .valid a
    | none => fault (.notOneOf (Table.keys words)) v
  | _ => fault (.notOneOf (Table.keys words)) v

/-- Nothing, or a checked value. -/
def orNull (check : Value → Check α) : Value → Check (Option α)
  | .null => .valid none
  | v => some <$> check v

/-- A field of a section: its default if the section has no such key. -/
def field (entries : Entries) (name : Text) (default : α) (check : Value → Check α) : Check α :=
  match Value.lookup entries name with
  | none => .valid default
  | some v => (check v).under (.key name)

/-- What is shown for a number that cannot be. -/
def hiddenNumber : Text := "<unprintable int object>"

/-- The step to a key.  A key that is no text is shown as a number where it counts as one. -/
def stepTo : Key → Step
  | .str t => .key t
  | k =>
    match k.number? with
    | some i => .key (if Value.isShowableInt i then ofInt i else hiddenNumber)
    | none => .key k.shown

/-- The key itself as a value. -/
def keyValue : Key → Value
  | .null => .null
  | .bool b => .bool b
  | .int i => .int i
  | .str t => .str t

/-- Refuses every key but the known ones. -/
def noOthers (known : List Text) : Entries → Check Unit
  | [] => .valid ()
  | (.str t, v) :: rest =>
    (fun _ _ => ()) <$>
      (if known.contains t then .valid () else (fault .unknownKey v).under (.key t)) <*>
      noOthers known rest
  | (k, _) :: rest =>
    (fun _ _ => ()) <$> ((fault .keyNotText (keyValue k) : Check Unit).under (stepTo k)) <*>
      noOthers known rest

/-- A section: a map, checked by its entries. -/
def ofSection (name : Text) (check : Entries → Check α) : Value → Check α
  | .map entries => check entries
  | v => fault (.notSection name) v

/-- The result of a check.  An unknown home directory ends the check at once, whatever else is
wrong. -/
inductive Outcome (α : Type) where
  | accepted (result : α)
  | refused (first : Fault) (others : List Fault)
  | noHome

/-- What a check comes to. -/
def outcome : Check α → Outcome α
  | .valid a => .accepted a
  | .invalid first others =>
    if (first :: others).any fun f => f.cause == .unknownHome then .noHome
    else .refused first others

end Check

end Signpost.Settings
