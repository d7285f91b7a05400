import Signpost.Proofs.Dialect
import Signpost.Proofs.Settings.Check
set_option autoImplicit false

/-!
# Sections as lists of fields

The check of a section reads one key after the other, refuses the keys that it does not know, and
may ask something of the section as a whole.  A schema lists the fields of a section, and
`Schema.Describes` says that a check is what its schema says, no more and no less: it accepts
entries exactly if each field is read from them and the rest is in order.

What holds of every field then holds of every section, and of the settings, whose fields are the
sections.
-/

namespace Signpost.Settings

open Check

/-- A field of a section. -/
structure Field (σ : Type) where
  /-- What the field holds. -/
  Kind : Type
  key : Text
  check : Value → Check Kind
  get : σ → Kind
  /-- What the field holds, as data. -/
  toValue : Kind → Value

namespace Field

variable {σ : Type}

/-- The field of `s` comes from the entries, or from `base` where they do not have its key. -/
def Reads (f : Field σ) (base : σ) (entries : Entries) (s : σ) : Prop :=
  field entries f.key (f.get base) f.check = .valid (f.get s)

/-- The field of `s` as an entry. -/
def entry (f : Field σ) (s : σ) : Key × Value := (.str f.key, f.toValue (f.get s))

end Field

/-- The fields of a section, and what is asked of it beyond them. -/
structure Schema (σ : Type) where
  /-- The section that no key sets anything in. -/
  base : σ
  fields : List (Field σ)
  /-- Whether other keys are refused. -/
  closed : Bool := true
  /-- What has to hold between the fields. -/
  rule : σ → Prop := fun _ => True

namespace Schema

variable {σ : Type}

/-- The keys of the fields. -/
def keys (schema : Schema σ) : List Text := schema.fields.map Field.key

/-- A section as entries, one for each field. -/
def entries (schema : Schema σ) (s : σ) : Entries := schema.fields.map fun f => f.entry s

/-- A check is the one that the schema stands for. -/
structure Describes (schema : Schema σ) (check : Entries → Check σ) : Prop where
  nodup_keys : schema.keys.Nodup
  /-- Entries are accepted as `s` exactly if they give all its fields and nothing else is wrong. -/
  valid_iff : ∀ entries s, check entries = .valid s ↔
    (∀ f ∈ schema.fields, f.Reads schema.base entries s) ∧
      (schema.closed = true → noOthers schema.keys entries = .valid ()) ∧ schema.rule s

end Schema

/-! ## Sections -/

theorem ofSection_eq_valid_iff {α : Type} {name : Text} {check : Entries → Check α} {v : Value}
    {a : α} :
    ofSection name check v = .valid a ↔ ∃ entries, v = .map entries ∧ check entries = .valid a := by
  cases v <;> simp [ofSection]

/-- The data of a level, where there may be none. -/
def ofLevel? : Option Level → Value
  | none => .null
  | some l => .str l.name

section

variable (homes : Homes)

/-- The fields of an output. -/
def outputSchema : Schema Output where
  base := {}
  fields :=
    [⟨Format, "format", oneOf formatWords, Output.format, fun f => .str f.word⟩,
     ⟨Destination, "destination", checkDestination homes, Output.destination, fun d => .str d.text⟩,
     ⟨Option Level, "level", orNull (oneOf levelWords), Output.level, ofLevel?⟩]

/-- The fields of the logging settings. -/
def loggingSchema : Schema Logging where
  base := {}
  fields :=
    [⟨Level, "level", oneOf levelWords, Logging.level, fun l => .str l.name⟩,
     ⟨List Output, "outputs", checkOutputs homes, Logging.outputs,
      fun outputs => .list (outputs.map Output.toValue)⟩]

/-- An alias table as data. -/
def ofMapping (mapping : Table Text Text) : Value :=
  .map (mapping.map fun e => (.str e.1, .str e.2))

/-- The fields of the hint settings. -/
def hintSchema : Schema Hints where
  base := {}
  fields :=
    [⟨Table Text Text, "mapping", checkMapping, Hints.mapping, ofMapping⟩,
     ⟨NameSet, "blocked_canonical", checkNameSet, Hints.blockedCanonical, ofNameSet⟩,
     ⟨NameSet, "blocked_alias", checkNameSet, Hints.blockedAlias, ofNameSet⟩,
     ⟨NameSet, "blocked_params", checkNameSet, Hints.blockedParameters, ofNameSet⟩,
     ⟨Bool, "add_param_defaults", Check.bool, Hints.addDefaults, .bool⟩,
     ⟨NameSet, "reserved_field_names", checkNameSet, Hints.reservedMembers, ofNameSet⟩]

/-- The fields of the source settings. -/
def sourceSchema : Schema Source where
  base := {}
  fields :=
    [⟨Text, "library_dir", checkPlainName, Source.libraryDir, .str⟩,
     ⟨Text, "entry_file", checkPlainName, Source.entryFile, .str⟩,
     ⟨Bool, "disable_from_root", Check.bool, Source.disableFromRoot, .bool⟩,
     ⟨Bool, "msg_on_root_disabled", Check.bool, Source.noticeWhenDisabled, .bool⟩]

/-- The fields of a dialect. -/
def dialectSchema : Schema Dialect where
  base := {}
  fields :=
    [⟨Text, "def_keyword", checkKeyword, Dialect.functionKeyword, .str⟩,
     ⟨Text, "class_keyword", checkKeyword, Dialect.classKeyword, .str⟩,
     ⟨Text, "constructor_name", checkKeyword, Dialect.constructorName, .str⟩]
  rule d := d.functionKeyword ≠ d.classKeyword

/-- The sections; other keys are refused if `exact`. -/
def settingsSchema (exact : Bool) : Schema Settings where
  base := {}
  fields :=
    [⟨Logging, "logging", checkLogging homes, Settings.logging, Logging.toValue⟩,
     ⟨Hints, "hints", checkHints, Settings.hints, Hints.toValue⟩,
     ⟨Source, "source", checkSource, Settings.source, Source.toValue⟩,
     ⟨Dialect, "dialect", checkDialect, Settings.dialect, ofDialect⟩]
  closed := exact

theorem outputSchema_describes : (outputSchema homes).Describes (checkOutputEntries homes) where
  nodup_keys := by
    change (["format", "destination", "level"] : List Text).Nodup
    decide
  valid_iff entries o := by
    simp only [checkOutputEntries, seq_eq_valid_iff, map_eq_valid_iff, outputSchema, Schema.keys,
      Field.Reads, List.forall_mem_cons, List.not_mem_nil, List.map_cons, List.map_nil]
    constructor
    · rintro ⟨_, _, ⟨_, level, ⟨_, destination, ⟨format, hformat, rfl⟩, hdestination, rfl⟩, hlevel,
        rfl⟩, hothers, rfl⟩
      exact ⟨⟨hformat, hdestination, hlevel, by simp⟩, fun _ => hothers, trivial⟩
    · rintro ⟨⟨hformat, hdestination, hlevel, -⟩, hothers, -⟩
      exact ⟨_, _, ⟨_, _, ⟨_, _, ⟨_, hformat, rfl⟩, hdestination, rfl⟩, hlevel, rfl⟩,
        hothers trivial, rfl⟩

theorem loggingSchema_describes : (loggingSchema homes).Describes (checkLoggingEntries homes) where
  nodup_keys := by
    change (["level", "outputs"] : List Text).Nodup
    decide
  valid_iff entries l := by
    simp only [checkLoggingEntries, seq_eq_valid_iff, map_eq_valid_iff, loggingSchema, Schema.keys,
      Field.Reads, List.forall_mem_cons, List.not_mem_nil, List.map_cons, List.map_nil]
    constructor
    · rintro ⟨_, _, ⟨_, outputs, ⟨level, hlevel, rfl⟩, houtputs, rfl⟩, hothers, rfl⟩
      exact ⟨⟨hlevel, houtputs, by simp⟩, fun _ => hothers, trivial⟩
    · rintro ⟨⟨hlevel, houtputs, -⟩, hothers, -⟩
      exact ⟨_, _, ⟨_, _, ⟨_, hlevel, rfl⟩, houtputs, rfl⟩, hothers trivial, rfl⟩

theorem hintSchema_describes : hintSchema.Describes checkHintEntries where
  nodup_keys := by decide
  valid_iff entries h := by
    simp only [checkHintEntries, seq_eq_valid_iff, map_eq_valid_iff, hintSchema, Schema.keys,
      Field.Reads, List.forall_mem_cons, List.not_mem_nil, List.map_cons, List.map_nil]
    constructor
    · rintro ⟨_, _, ⟨_, reserved, ⟨_, defaults, ⟨_, parameters, ⟨_, aliases, ⟨_, canonical,
        ⟨mapping, hmapping, rfl⟩, hcanonical, rfl⟩, haliases, rfl⟩, hparameters, rfl⟩, hdefaults,
        rfl⟩, hreserved, rfl⟩, hothers, rfl⟩
      exact ⟨⟨hmapping, hcanonical, haliases, hparameters, hdefaults, hreserved, by simp⟩,
        fun _ => hothers, trivial⟩
    · rintro ⟨⟨hmapping, hcanonical, haliases, hparameters, hdefaults, hreserved, -⟩, hothers, -⟩
      exact ⟨_, _, ⟨_, _, ⟨_, _, ⟨_, _, ⟨_, _, ⟨_, _, ⟨_, hmapping, rfl⟩, hcanonical, rfl⟩,
        haliases, rfl⟩, hparameters, rfl⟩, hdefaults, rfl⟩, hreserved, rfl⟩, hothers trivial, rfl⟩

theorem sourceSchema_describes : sourceSchema.Describes checkSourceEntries where
  nodup_keys := by decide
  valid_iff entries s := by
    simp only [checkSourceEntries, seq_eq_valid_iff, map_eq_valid_iff, sourceSchema, Schema.keys,
      Field.Reads, List.forall_mem_cons, List.not_mem_nil, List.map_cons, List.map_nil]
    constructor
    · rintro ⟨_, _, ⟨_, notice, ⟨_, disable, ⟨_, entryFile, ⟨directory, hdirectory, rfl⟩,
        hentryFile, rfl⟩, hdisable, rfl⟩, hnotice, rfl⟩, hothers, rfl⟩
      exact ⟨⟨hdirectory, hentryFile, hdisable, hnotice, by simp⟩, fun _ => hothers, trivial⟩
    · rintro ⟨⟨hdirectory, hentryFile, hdisable, hnotice, -⟩, hothers, -⟩
      exact ⟨_, _, ⟨_, _, ⟨_, _, ⟨_, _, ⟨_, hdirectory, rfl⟩, hentryFile, rfl⟩, hdisable, rfl⟩,
        hnotice, rfl⟩, hothers trivial, rfl⟩

theorem dialectSchema_describes : dialectSchema.Describes checkDialectEntries where
  nodup_keys := by decide
  valid_iff entries d := by
    -- The rule is checked last, on the dialect that the fields make.
    have hrule : checkDialectEntries entries = .valid d ↔
        checkDialectFields entries = .valid d ∧ d.functionKeyword ≠ d.classKeyword := by
      rw [checkDialectEntries, andThen_eq_valid_iff]
      constructor
      · rintro ⟨e, hfields, hdistinct⟩
        split at hdistinct
        · simp at hdistinct
        · rename_i hne
          obtain rfl := Check.valid.inj hdistinct
          exact ⟨hfields, hne⟩
      · rintro ⟨hfields, hne⟩
        exact ⟨d, hfields, if_neg hne⟩
    rw [hrule]
    simp only [checkDialectFields, seq_eq_valid_iff, map_eq_valid_iff, dialectSchema, Schema.keys,
      Field.Reads, List.forall_mem_cons, List.not_mem_nil, List.map_cons, List.map_nil]
    constructor
    · rintro ⟨⟨_, _, ⟨_, constructor, ⟨_, cls, ⟨func, hfunc, rfl⟩, hcls, rfl⟩, hconstructor, rfl⟩,
        hothers, rfl⟩, hne⟩
      exact ⟨⟨hfunc, hcls, hconstructor, by simp⟩, fun _ => hothers, hne⟩
    · rintro ⟨⟨hfunc, hcls, hconstructor, -⟩, hothers, hne⟩
      exact ⟨⟨_, _, ⟨_, _, ⟨_, _, ⟨_, hfunc, rfl⟩, hcls, rfl⟩, hconstructor, rfl⟩, hothers trivial,
        rfl⟩, hne⟩

theorem settingsSchema_describes (exact : Bool) :
    (settingsSchema homes exact).Describes (checkEntries homes exact) where
  nodup_keys := by
    change sectionNames.Nodup
    decide
  valid_iff entries s := by
    have hothers : (if exact then noOthers sectionNames entries else .valid ()) = .valid () ↔
        (exact = true → noOthers (settingsSchema homes exact).keys entries = .valid ()) := by
      cases exact <;> simp [settingsSchema, Schema.keys, sectionNames]
    rw [checkEntries]
    simp only [seq_eq_valid_iff, map_eq_valid_iff, settingsSchema, Field.Reads,
      List.forall_mem_cons, List.not_mem_nil] at hothers ⊢
    constructor
    · rintro ⟨_, _, ⟨_, dialect, ⟨_, source, ⟨_, hints, ⟨logging, hlogging, rfl⟩, hhints, rfl⟩,
        hsource, rfl⟩, hdialect, rfl⟩, hrest, rfl⟩
      exact ⟨⟨hlogging, hhints, hsource, hdialect, by simp⟩, hothers.mp hrest, trivial⟩
    · rintro ⟨⟨hlogging, hhints, hsource, hdialect, -⟩, hrest, -⟩
      exact ⟨_, _, ⟨_, _, ⟨_, _, ⟨_, _, ⟨_, hlogging, rfl⟩, hhints, rfl⟩, hsource, rfl⟩, hdialect,
        rfl⟩, hothers.mpr hrest, rfl⟩

end

end Signpost.Settings
