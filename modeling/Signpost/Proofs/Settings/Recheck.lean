import Mathlib.Data.List.Forall2
import Signpost.Proofs.NameSet
import Signpost.Proofs.Outcome
import Signpost.Proofs.Path
import Signpost.Proofs.Settings.Schema
import Signpost.Proofs.Table
import Signpost.Settings.Load
set_option autoImplicit false

/-!
# Checking what has been checked

What a check accepts, it accepts again as data, and as the same (`Check.IsStable`).  Checks change
their input: words become truth values, lists become sets, a destination is expanded and written
anew.  Each of these changes leaves its own result alone, and a section is stable because its fields
are (`Schema.Describes.isStable`).

Destinations are where this could fail: a path comes out as it went in only if it is normal, which
a home directory put in front has to be as well.
-/

namespace Signpost.Settings

open Text

/-- What a check accepts is accepted again as data, with the same result. -/
def Check.IsStable {α : Type} (check : Value → Check α) (toValue : α → Value) : Prop :=
  ∀ v a, check v = .valid a → check (toValue a) = .valid a

/-- The field is stable, and so is what it holds in `base`. -/
structure Field.IsStable {σ : Type} (f : Field σ) (base : σ) : Prop where
  base : f.check (f.toValue (f.get base)) = .valid (f.get base)
  checked : Check.IsStable f.check f.toValue

open Check

/-! ## Sections -/

section

variable {σ : Type}

/-- Known keys are all there is to find. -/
theorem noOthers_eq_valid {known : List Text} {entries : Entries}
    (h : ∀ e ∈ entries, ∃ t ∈ known, e.1 = .str t) : noOthers known entries = .valid () := by
  induction entries with
  | nil => rfl
  | cons e rest ih =>
    obtain ⟨⟨t, ht, hkey⟩, hrest⟩ := List.forall_mem_cons.mp h
    obtain ⟨k, v⟩ := e
    obtain rfl : k = .str t := hkey
    have hknown : known.contains t = true := by simpa using ht
    rw [noOthers, if_pos hknown, ih hrest]
    rfl

theorem lookup_map_entry {fields : List (Field σ)} (hnodup : (fields.map Field.key).Nodup) (s : σ)
    {f : Field σ} (hf : f ∈ fields) :
    Value.lookup (fields.map fun f => f.entry s) f.key = some (f.toValue (f.get s)) := by
  induction fields with
  | nil => simp at hf
  | cons g fields ih =>
    obtain ⟨hg, hnodup⟩ := List.nodup_cons.mp hnodup
    have hfirst : Value.lookup ((g :: fields).map fun f => f.entry s) f.key =
        if g.key == f.key then some (g.toValue (g.get s))
        else Value.lookup (fields.map fun f => f.entry s) f.key := rfl
    rw [hfirst]
    rcases List.mem_cons.mp hf with rfl | hf
    · rw [if_pos (beq_self_eq_true _)]
    · have hne : g.key ≠ f.key := fun h => hg (h ▸ List.mem_map_of_mem hf)
      rw [if_neg (by simpa using hne), ih hnodup hf]

/-- A section of stable fields is accepted again from its own entries. -/
theorem Schema.Describes.check_entries {schema : Schema σ} {check : Entries → Check σ}
    (h : schema.Describes check) (hfields : ∀ f ∈ schema.fields, f.IsStable schema.base)
    {entries : Entries} {s : σ} (hs : check entries = .valid s) :
    check (schema.entries s) = .valid s := by
  obtain ⟨hreads, _, hrule⟩ := (h.valid_iff _ _).mp hs
  refine (h.valid_iff _ _).mpr ⟨?_, fun _ => noOthers_eq_valid ?_, hrule⟩
  · intro f hf
    refine Check.field_eq_valid_iff.mpr (.inr ⟨_, lookup_map_entry h.nodup_keys s hf, ?_⟩)
    rcases Check.field_eq_valid_iff.mp (hreads f hf) with ⟨_, hbase⟩ | ⟨v, _, hv⟩
    · rw [← hbase]
      exact (hfields f hf).base
    · exact (hfields f hf).checked v _ hv
  · intro e he
    obtain ⟨f, hf, rfl⟩ := List.mem_map.mp he
    exact ⟨f.key, List.mem_map_of_mem hf, rfl⟩

/-- A section of stable fields is stable. -/
theorem Schema.Describes.isStable {schema : Schema σ} {check : Entries → Check σ}
    (h : schema.Describes check) (hfields : ∀ f ∈ schema.fields, f.IsStable schema.base)
    (name : Text) : IsStable (ofSection name check) fun s => .map (schema.entries s) := by
  intro v s hs
  obtain ⟨entries, _, hentries⟩ := ofSection_eq_valid_iff.mp hs
  exact h.check_entries hfields hentries

end

/-! ## Plain fields -/

theorem isStable_textWith (holds : Text → Bool) (rule : Text → Rule) :
    IsStable (textWith holds rule) .str := by
  intro v t h
  exact Check.textWith_eq_valid_iff.mpr ⟨rfl, (Check.textWith_eq_valid_iff.mp h).2⟩

theorem isStable_bool : IsStable Check.bool .bool := fun _ _ _ => rfl

theorem isStable_format : IsStable (oneOf formatWords) fun f => .str f.word := by
  intro _ f _
  cases f <;> rfl

theorem oneOf_levelWords (l : Level) : oneOf levelWords (.str l.name) = .valid l := by
  cases l <;> rfl

theorem isStable_level : IsStable (oneOf levelWords) fun l => .str l.name :=
  fun _ l _ => oneOf_levelWords l

theorem isStable_level? : IsStable (orNull (oneOf levelWords)) ofLevel? := by
  intro _ l _
  cases l with
  | none => rfl
  | some l => exact Check.map_eq_valid_iff.mpr ⟨l, oneOf_levelWords l, rfl⟩

/-! ## Lists and sets -/

theorem items_eq_valid_iff {α : Type} {check : Value → Check α} {position : Nat} {vs : List Value}
    {as : List α} :
    items check position vs = .valid as ↔
      List.Forall₂ (fun v a => check v = .valid a) vs as := by
  induction vs generalizing position as with
  | nil => cases as <;> simp [items]
  | cons v vs ih =>
    rw [items, seq_eq_valid_iff]
    simp only [map_eq_valid_iff, under_eq_valid_iff, ih, List.forall₂_cons_left_iff]
    constructor
    · rintro ⟨_, rest, ⟨a, ha, rfl⟩, hrest, rfl⟩
      exact ⟨a, rest, ha, hrest, rfl⟩
    · rintro ⟨a, rest, ha, hrest, rfl⟩
      exact ⟨_, rest, ⟨a, ha, rfl⟩, hrest, rfl⟩

theorem Check.IsStable.items {α : Type} {check : Value → Check α} {toValue : α → Value}
    (h : IsStable check toValue) {position : Nat} {vs : List Value} {as : List α}
    (has : items check position vs = .valid as) :
    items check position (as.map toValue) = .valid as := by
  rw [items_eq_valid_iff] at has ⊢
  rw [List.forall₂_map_left_iff]
  induction has with
  | nil => exact .nil
  | cons ha _ ih => exact .cons (h _ _ ha) ih

theorem isStable_nameSet : IsStable checkNameSet ofNameSet := by
  intro v s h
  cases v with
  | list vs =>
    obtain ⟨names, _, rfl⟩ := Check.map_eq_valid_iff.mp h
    have htexts (s : NameSet) : Check.items Check.text 0 (s.map .str) = .valid s := by
      rw [items_eq_valid_iff, List.forall₂_map_left_iff, List.forall₂_same]
      exact fun _ _ => rfl
    refine Check.map_eq_valid_iff.mpr ⟨_, htexts _, ?_⟩
    exact NameSet.ofList_eq_self (NameSet.pairwise_ofList names)
  | _ => simp [checkNameSet] at h

/-! ## Alias tables -/

/-- A pair that an alias table may have: two different identifiers. -/
def IsAlias (e : Text × Text) : Prop :=
  isIdentifier e.1 = true ∧ isIdentifier e.2 = true ∧ e.1 ≠ e.2

theorem brokenPair?_eq_none_iff {pairs : List (Text × Text)} :
    brokenPair? pairs = none ↔ ∀ e ∈ pairs, IsAlias e := by
  induction pairs with
  | nil => simp [brokenPair?]
  | cons e rest ih =>
    obtain ⟨name, canonical⟩ := e
    rw [List.forall_mem_cons, ← ih, brokenPair?, IsAlias]
    cases isIdentifier name <;> cases isIdentifier canonical <;> by_cases name = canonical <;>
      simp [*]

theorem checkPairs_eq_valid_iff {entries : Entries} {pairs : List (Text × Text)} :
    checkPairs entries = .valid pairs ↔
      entries = pairs.map fun e => (.str e.1, .str e.2) := by
  induction entries generalizing pairs with
  | nil => cases pairs <;> simp [checkPairs]
  | cons e rest ih =>
    obtain ⟨k, v⟩ := e
    cases k with
    | str name =>
      rw [checkPairs, seq_eq_valid_iff]
      simp only [map_eq_valid_iff, under_eq_valid_iff, ih]
      constructor
      · rintro ⟨_, others, ⟨canonical, hcanonical, rfl⟩, rfl, rfl⟩
        cases v <;> simp_all [Check.text]
      · intro hentries
        cases pairs with
        | nil => simp at hentries
        | cons pair pairs =>
          obtain ⟨hhead, htail⟩ := List.cons.inj hentries
          obtain ⟨hname, rfl⟩ := Prod.mk.inj hhead
          obtain rfl := Key.str.inj hname
          exact ⟨_, pairs, ⟨pair.2, rfl, rfl⟩, htail, rfl⟩
    | _ =>
      simp only [checkPairs, seq_eq_valid_iff, map_eq_valid_iff, under_eq_valid_iff,
        fault_ne_valid]
      cases pairs <;> simp

/-- An alias table is accepted if it has only aliases in it. -/
theorem checkMapping_eq_valid_iff {v : Value} {mapping : Table Text Text} :
    checkMapping v = .valid mapping ↔
      ∃ pairs, v = ofMapping pairs ∧ (∀ e ∈ pairs, IsAlias e) ∧ Table.ofPairs pairs = mapping := by
  cases v with
  | map entries =>
    simp only [checkMapping, andThen_eq_valid_iff, checkPairs_eq_valid_iff, ofMapping,
      Value.map.injEq, ← brokenPair?_eq_none_iff]
    constructor
    · rintro ⟨pairs, hentries, hvalid⟩
      split at hvalid
      · rename_i hnone
        exact ⟨pairs, hentries, hnone, Check.valid.inj hvalid⟩
      · simp at hvalid
    · rintro ⟨pairs, hentries, hnone, rfl⟩
      exact ⟨pairs, hentries, by rw [hnone]⟩
  | _ => simp [checkMapping, ofMapping]

theorem isStable_mapping : IsStable checkMapping ofMapping := by
  intro v mapping h
  obtain ⟨pairs, _, haliases, rfl⟩ := checkMapping_eq_valid_iff.mp h
  refine checkMapping_eq_valid_iff.mpr ⟨_, rfl, ?_, ?_⟩
  · exact fun e he => haliases e (Table.mem_of_mem_ofPairs he)
  · exact Table.ofPairs_eq_self (Table.nodup_keys_ofPairs pairs)

/-! ## Destinations -/

/-- All home directories are normal, as paths that have been read are (`Path.isNormal_ofText`). -/
structure Homes.IsNormal (homes : Homes) : Prop where
  own : homes.own.IsNormal
  others : ∀ e ∈ homes.others, e.2.IsNormal

theorem isNormal_of_expandHome {homes : Homes} (hhomes : homes.IsNormal) {p q : Path}
    (hp : p.IsNormal) (h : expandHome homes p = some q) : q.IsNormal := by
  unfold expandHome at h
  split at h
  · exact Option.some.inj h ▸ hp
  · rename_i user _
    obtain ⟨home, hof, rfl⟩ := Option.map_eq_some_iff.mp h
    obtain ⟨hhome, _⟩ := Option.filter_eq_some_iff.mp hof
    have hnormal : home.IsNormal := by
      split at hhome
      · exact Option.some.inj hhome ▸ hhomes.own
      · exact hhomes.others _ (Table.mem_of_get?_eq_some hhome)
    intro n hn
    rcases List.mem_append.mp hn with hn | hn
    · exact hnormal n hn
    · exact hp n (List.mem_of_mem_tail hn)

/-- The path of an absolute file is none of the words for the streams. -/
theorem text_ne_of_isAbsolute {p : Path} (h : p.isAbsolute = true) :
    p.text ≠ Destination.stderr.text ∧ p.text ≠ Destination.stdout.text := by
  have hhead := Path.head?_text_of_isAbsolute h
  constructor <;> intro heq <;> rw [heq] at hhead <;> exact absurd hhead (by decide)

/-- An absolute path does not start in a home directory. -/
theorem homeUser?_of_isAbsolute {p : Path} (h : p.isAbsolute = true) : homeUser? p = none := by
  obtain ⟨anchor, names⟩ := p
  cases anchor with
  | relative => simp [Path.isAbsolute] at h
  | root => rfl
  | doubleRoot => rfl

/-- An absolute, normal path is read as it is written. -/
theorem checkDestination_file (homes : Homes) {p : Path} (habsolute : p.isAbsolute = true)
    (hnormal : p.IsNormal) : checkDestination homes (.str p.text) = .valid (.file p) := by
  obtain ⟨hstderr, hstdout⟩ := text_ne_of_isAbsolute habsolute
  have huser : homeUser? p = none := homeUser?_of_isAbsolute habsolute
  simp [checkDestination, Check.text, Check.andThen, hstderr, hstdout, Path.ofText_text hnormal,
    huser, expandHome, habsolute]

theorem isStable_destination {homes : Homes} (hhomes : homes.IsNormal) :
    IsStable (checkDestination homes) fun d => .str d.text := by
  intro v d h
  obtain ⟨t, _, ht⟩ := Check.andThen_eq_valid_iff.mp h
  split at ht
  · obtain rfl := Check.valid.inj ht
    rfl
  · split at ht
    · obtain rfl := Check.valid.inj ht
      rfl
    · split at ht
      · simp at ht
      · split at ht
        · simp at ht
        · rename_i p hexpand
          split at ht
          · rename_i habsolute
            obtain rfl := Check.valid.inj ht
            have hnormal := isNormal_of_expandHome hhomes (Path.isNormal_ofText t) hexpand
            exact checkDestination_file homes habsolute hnormal
          · simp at ht

/-! ## All sections -/

section

variable {homes : Homes}

theorem isStable_checkOutput (hhomes : homes.IsNormal) :
    IsStable (checkOutput homes) Output.toValue := by
  refine (outputSchema_describes homes).isStable ?_ _
  simp only [outputSchema, List.forall_mem_cons, List.not_mem_nil]
  exact ⟨⟨rfl, isStable_format⟩, ⟨rfl, isStable_destination hhomes⟩, ⟨rfl, isStable_level?⟩,
    by simp⟩

theorem isStable_checkOutputs (hhomes : homes.IsNormal) :
    IsStable (checkOutputs homes) fun outputs => .list (outputs.map Output.toValue) := by
  intro v outputs h
  cases v with
  | list vs => exact (isStable_checkOutput hhomes).items h
  | _ => simp [checkOutputs] at h

theorem isStable_checkLogging (hhomes : homes.IsNormal) :
    IsStable (checkLogging homes) Logging.toValue := by
  refine (loggingSchema_describes homes).isStable ?_ _
  simp only [loggingSchema, List.forall_mem_cons, List.not_mem_nil]
  exact ⟨⟨rfl, isStable_level⟩, ⟨rfl, isStable_checkOutputs hhomes⟩, by simp⟩

theorem isStable_checkHints : IsStable checkHints Hints.toValue := by
  refine hintSchema_describes.isStable ?_ _
  simp only [hintSchema, List.forall_mem_cons, List.not_mem_nil]
  exact ⟨⟨rfl, isStable_mapping⟩, ⟨rfl, isStable_nameSet⟩, ⟨rfl, isStable_nameSet⟩,
    ⟨rfl, isStable_nameSet⟩, ⟨rfl, isStable_bool⟩, ⟨rfl, isStable_nameSet⟩, by simp⟩

theorem isStable_checkSource : IsStable checkSource Source.toValue := by
  refine sourceSchema_describes.isStable ?_ _
  simp only [sourceSchema, List.forall_mem_cons, List.not_mem_nil]
  exact ⟨⟨rfl, isStable_textWith _ _⟩, ⟨rfl, isStable_textWith _ _⟩, ⟨rfl, isStable_bool⟩,
    ⟨rfl, isStable_bool⟩, by simp⟩

theorem isStable_checkDialect : IsStable checkDialect ofDialect := by
  refine dialectSchema_describes.isStable ?_ _
  simp only [dialectSchema, List.forall_mem_cons, List.not_mem_nil]
  exact ⟨⟨rfl, isStable_textWith _ _⟩, ⟨rfl, isStable_textWith _ _⟩, ⟨rfl, isStable_textWith _ _⟩,
    by simp⟩

theorem settings_isStable (hhomes : homes.IsNormal) (exact : Bool) :
    ∀ f ∈ (settingsSchema homes exact).fields, f.IsStable {} := by
  simp only [settingsSchema, List.forall_mem_cons, List.not_mem_nil]
  exact ⟨⟨rfl, isStable_checkLogging hhomes⟩, ⟨rfl, isStable_checkHints⟩,
    ⟨rfl, isStable_checkSource⟩, ⟨rfl, isStable_checkDialect⟩, by simp⟩

theorem isStable_check (hhomes : homes.IsNormal) : IsStable (check homes) toValue :=
  (settingsSchema_describes homes false).isStable (settings_isStable hhomes false) _

end

/-! ## Loaded settings -/

section

variable {homes : Homes} {r : Readers} {s : Surroundings} {root : Path}
  {overrides entries : Entries} {settings : Settings}

theorem checkEntries_of_accept (h : accept homes entries = .ok settings) :
    checkEntries homes true entries = .valid settings := by
  unfold accept at h
  split at h
  · split at h
    · rename_i haccepted
      obtain rfl := Except.ok.inj h
      exact (Check.outcome_eq_accepted_iff _ _).mp haccepted
    · simp at h
    · split at h <;> simp at h
  · simp at h

/-- Loaded settings are what the sources come to when they are put over each other and checked. -/
theorem exists_layers_of_load (h : r.load s root overrides = .ok settings) :
    ∃ user library environment,
      r.entries s.files s.userSettings = .ok user ∧
      r.entries s.files (librarySettings root) = .ok library ∧
      s.environment.entriesWith r.json = .ok environment ∧
      checkEntries s.home true (Value.merge (Value.merge user library)
        (Value.merge environment (Environment.spelled sectionNames overrides))) =
          .valid settings := by
  obtain ⟨entries, hlayers, haccept⟩ := bind_eq_ok_iff.mp h
  obtain ⟨user, huser, hlayers⟩ := bind_eq_ok_iff.mp hlayers
  obtain ⟨library, hlibrary, hlayers⟩ := bind_eq_ok_iff.mp hlayers
  split at hlayers
  · simp at hlayers
  · rename_i environment henvironment
    obtain rfl := Except.ok.inj hlayers
    exact ⟨user, library, environment, huser, hlibrary, henvironment,
      checkEntries_of_accept haccept⟩

/-- Loaded settings are accepted as they are. -/
theorem check_toValue_of_load (hhomes : s.home.IsNormal)
    (h : r.load s root overrides = .ok settings) :
    check s.home settings.toValue = .valid settings := by
  obtain ⟨user, library, environment, _, _, _, hchecked⟩ := exists_layers_of_load h
  -- The sources were checked more strictly than data is.
  obtain ⟨hreads, _, hrule⟩ := ((settingsSchema_describes s.home true).valid_iff _ _).mp hchecked
  have hlax := ((settingsSchema_describes s.home false).valid_iff _ _).mpr
    ⟨hreads, fun hclosed => absurd hclosed Bool.false_ne_true, hrule⟩
  exact (settingsSchema_describes s.home false).check_entries (settings_isStable hhomes false) hlax

end

/-- Where home directories are normal, whatever one of the six checks accepts is accepted again as
data, with the same result; so are the settings that have been loaded. -/
theorem accepted_again_as_data {homes : Homes} (hhomes : homes.IsNormal) :
    IsStable (checkOutput homes) Output.toValue ∧
    IsStable (checkLogging homes) Logging.toValue ∧
    IsStable checkHints Hints.toValue ∧
    IsStable checkSource Source.toValue ∧
    IsStable checkDialect ofDialect ∧
    IsStable (check homes) toValue ∧
    ∀ (s : Surroundings) (root : Path) (overrides : Entries) (settings : Settings),
      s.home = homes → load s root overrides = .ok settings →
        check homes settings.toValue = .valid settings := by
  refine ⟨isStable_checkOutput hhomes, isStable_checkLogging hhomes, isStable_checkHints,
    isStable_checkSource, isStable_checkDialect, isStable_check hhomes, ?_⟩
  rintro s root overrides settings rfl hload
  exact check_toValue_of_load hhomes hload

/-- A log file in the home directory, written with slashes and dots that a path does not keep: the
second check sees a different text and gives the same settings. -/
theorem accepted_again_as_data_home :
    let s : Surroundings :=
      { home := { own := .ofText "/home/oracle" }, userSettings := .ofText "/user.yaml" }
    let overrides : Entries :=
      [(.str "Logging", .map [(.str "outputs", .list
        [.map [(.str "destination", .str "~//logs/./hints.log")]])]),
       (.str "hints", .map [(.str "blocked_alias", .list [.str "b", .str "a", .str "b"]),
        (.str "add_param_defaults", .str "Yes")])]
    let settings : Settings :=
      { logging := { outputs := [{ destination := .file (.ofText "/home/oracle/logs/hints.log") }] }
        hints := { blockedAlias := ["a", "b"], addDefaults := true } }
    s.home.IsNormal ∧ load s ⟨.root, []⟩ overrides = .ok settings ∧
      check s.home settings.toValue = .valid settings := by
  intro s overrides settings
  have hhomes : s.home.IsNormal := ⟨by decide, by simp [s]⟩
  have hsome : (load s ⟨.root, []⟩ overrides).toOption = some settings := by decide +kernel
  have hload := toOption_eq_some_iff.mp hsome
  obtain ⟨_, _, _, _, _, _, hagain⟩ := accepted_again_as_data hhomes
  exact ⟨hhomes, hload, hagain s _ overrides settings rfl hload⟩

end Signpost.Settings
