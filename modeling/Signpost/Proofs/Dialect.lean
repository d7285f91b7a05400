import Signpost.Proofs.Text.Class
import Signpost.Settings.Dialect
set_option autoImplicit false

/-!
# Valid dialects

A dialect comes from the settings, and the settings take only identifiers as keywords and refuse the
same keyword for functions and classes.  `Dialect.Valid` says just that (`valid_iff_accepted`).
What the index needs of it is that a keyword is not empty and has no blanks.
-/

namespace Signpost

open Text

/-- The dialects that the settings accept. -/
structure Dialect.Valid (d : Dialect) : Prop where
  functionKeyword : isIdentifier d.functionKeyword = true
  classKeyword : isIdentifier d.classKeyword = true
  constructorName : isIdentifier d.constructorName = true
  /-- Functions and classes are told apart by their keywords. -/
  distinct : d.functionKeyword ≠ d.classKeyword

theorem Dialect.valid_default : Dialect.Valid {} :=
  ⟨by decide, by decide, by decide, by decide⟩

namespace Settings

open Check

variable {α β : Type}

theorem Check.seq_eq_valid_iff {f : Check (α → β)} {c : Check α} {b : β} :
    f <*> c = .valid b ↔ ∃ g a, f = .valid g ∧ c = .valid a ∧ g a = b := by
  show Check.apply f c = .valid b ↔ _
  cases f <;> cases c <;> simp [Check.apply]

theorem Check.map_eq_valid_iff {f : α → β} {c : Check α} {b : β} :
    f <$> c = .valid b ↔ ∃ a, c = .valid a ∧ f a = b := by
  show Check.apply (.valid f) c = .valid b ↔ _
  cases c <;> simp [Check.apply]

theorem Check.andThen_eq_valid_iff {c : Check α} {f : α → Check β} {b : β} :
    c.andThen f = .valid b ↔ ∃ a, c = .valid a ∧ f a = .valid b := by
  cases c <;> simp [Check.andThen]

theorem Check.under_eq_valid_iff {step : Step} {c : Check α} {a : α} :
    c.under step = .valid a ↔ c = .valid a := by
  cases c <;> simp [Check.under]

/-- A field has its default, or the checked value of its key. -/
theorem Check.field_eq_valid_iff {entries : Entries} {name : Text} {default a : α}
    {check : Value → Check α} :
    field entries name default check = .valid a ↔
      (Value.lookup entries name = none ∧ default = a) ∨
        ∃ v, Value.lookup entries name = some v ∧ check v = .valid a := by
  unfold field
  cases Value.lookup entries name with
  | none => simp
  | some v => simp [Check.under_eq_valid_iff]

theorem Check.textWith_eq_valid_iff {holds : Text → Bool} {rule : Text → Rule} {v : Value}
    {t : Text} : textWith holds rule v = .valid t ↔ v = .str t ∧ holds t = true := by
  unfold textWith
  rw [Check.andThen_eq_valid_iff]
  constructor
  · rintro ⟨u, hu, ht⟩
    split at ht
    · rename_i hholds
      obtain rfl := Check.valid.inj ht
      cases v <;> simp_all [Check.text, fault]
    · simp [fault] at ht
  · rintro ⟨rfl, hholds⟩
    exact ⟨t, rfl, if_pos hholds⟩

/-- Whatever the field of a text comes to satisfies the rule, if its default does. -/
theorem Check.holds_of_field {holds : Text → Bool} {rule : Text → Rule} {entries : Entries}
    {name default t : Text} (hdefault : holds default = true)
    (h : field entries name default (textWith holds rule) = .valid t) : holds t = true := by
  rcases Check.field_eq_valid_iff.mp h with ⟨_, rfl⟩ | ⟨v, _, hv⟩
  · exact hdefault
  · exact (Check.textWith_eq_valid_iff.mp hv).2

theorem valid_of_checkDialectEntries {entries : Entries} {d : Dialect}
    (h : checkDialectEntries entries = .valid d) : d.Valid := by
  obtain ⟨e, hfields, hdistinct⟩ := Check.andThen_eq_valid_iff.mp h
  split at hdistinct
  · simp [fault] at hdistinct
  · rename_i hne
    obtain rfl := Check.valid.inj hdistinct
    unfold checkDialectFields at hfields
    obtain ⟨_, _, hnames, _, hall⟩ := Check.seq_eq_valid_iff.mp hfields
    obtain ⟨_, n, hkeywords, hn, hthree⟩ := Check.seq_eq_valid_iff.mp hnames
    obtain ⟨_, c, hfirst, hc, htwo⟩ := Check.seq_eq_valid_iff.mp hkeywords
    obtain ⟨f, hf, hone⟩ := Check.map_eq_valid_iff.mp hfirst
    subst hone htwo hthree hall
    exact
      { functionKeyword := Check.holds_of_field (by decide) hf
        classKeyword := Check.holds_of_field (by decide) hc
        constructorName := Check.holds_of_field (by decide) hn
        distinct := hne }

/-- A dialect as data is accepted as itself. -/
theorem checkDialect_ofDialect {d : Dialect} (h : d.Valid) :
    checkDialect (ofDialect d) = .valid d := by
  have hkeyword : ∀ t, isIdentifier t = true → checkKeyword (.str t) = .valid t := fun t ht =>
    Check.textWith_eq_valid_iff.mpr ⟨rfl, ht⟩
  have hfields : checkDialectFields
      [(.str "def_keyword", .str d.functionKeyword), (.str "class_keyword", .str d.classKeyword),
        (.str "constructor_name", .str d.constructorName)] = .valid d := by
    refine Check.seq_eq_valid_iff.mpr ⟨_, (), Check.seq_eq_valid_iff.mpr ⟨_, d.constructorName,
      Check.seq_eq_valid_iff.mpr ⟨_, d.classKeyword,
        Check.map_eq_valid_iff.mpr ⟨d.functionKeyword, ?_, rfl⟩, ?_, rfl⟩, ?_, rfl⟩, ?_, rfl⟩
    · exact Check.field_eq_valid_iff.mpr (Or.inr ⟨_, rfl, hkeyword _ h.functionKeyword⟩)
    · exact Check.field_eq_valid_iff.mpr (Or.inr ⟨_, rfl, hkeyword _ h.classKeyword⟩)
    · exact Check.field_eq_valid_iff.mpr (Or.inr ⟨_, rfl, hkeyword _ h.constructorName⟩)
    · rfl
  refine Check.andThen_eq_valid_iff.mpr ⟨d, hfields, ?_⟩
  exact if_neg h.distinct

end Settings

open Settings in
/-- The valid dialects are those that some settings describe. -/
theorem Dialect.valid_iff_accepted (d : Dialect) : d.Valid ↔ ∃ v, checkDialect v = .valid d := by
  constructor
  · intro h
    exact ⟨ofDialect d, checkDialect_ofDialect h⟩
  · rintro ⟨v, hv⟩
    cases v with
    | map entries => exact valid_of_checkDialectEntries hv
    | _ => simp [checkDialect, Check.ofSection, Check.fault] at hv

end Signpost
