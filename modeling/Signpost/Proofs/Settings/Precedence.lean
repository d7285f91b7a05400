import Signpost.Proofs.Settings.Recheck
import Signpost.Proofs.Settings.Sources
set_option autoImplicit false

/-!
# Which source a setting comes from

The four sources of settings (`Sources`) are put over each other in two steps, the settings files
first.  What is found under a name afterwards is what the first source says that says anything
(`HaveDistinctKeys.lookup_merged_eq_first`), as long as it is no map; where it is one, the maps of
the sources are put over each other in the same way (`HaveDistinctKeys.entriesOf_lookup_merged`).
So a section is made of what the sources have in it, field by field, and the alias table alias by
alias (`load_holds_first`).

One thing is lost on the way.  A library that sets the alias table to something else than a map
hides the user's aliases, even if the environment or the caller brings a map again.
-/

namespace Signpost.Settings

open Check Value

/-- The four sources of settings. -/
structure Sources where
  overrides : Entries
  environment : Entries
  library : Entries
  user : Entries

namespace Sources

variable (x : Sources)

/-- All sources, each before those that it goes over. -/
def all : List Entries := [x.overrides, x.environment, x.library, x.user]

/-- The sources put over each other. -/
def merged : Entries := merge (merge x.user x.library) (merge x.environment x.overrides)

/-- What the first source says about a name that says anything. -/
def first (name : Text) : Option Value := x.all.findSome? fun source => lookup source name

/-- What the sources have under a name. -/
def within (name : Text) : Sources where
  overrides := entriesOf (lookup x.overrides name)
  environment := entriesOf (lookup x.environment name)
  library := entriesOf (lookup x.library name)
  user := entriesOf (lookup x.user name)

/-- What the sources have under a name, where the library can hide the user's entries: it does so by
having something else there than a map. -/
def mapsUnder (name : Text) : Sources :=
  if ∀ v ∈ lookup x.library name, v.IsMap then x.within name else { x.within name with user := [] }

/-- The sources are those that settings are loaded from. -/
structure AreOf (s : Surroundings) (root : Path) (overrides : Entries) : Prop where
  overrides : x.overrides = Environment.spelled sectionNames overrides
  environment : s.environment.entries = .ok x.environment
  library : readEntries s.files (librarySettings root) = .ok x.library
  user : readEntries s.files s.userSettings = .ok x.user

/-- Every section of a source is a map. -/
def HaveMapSections : Prop :=
  ∀ source ∈ x.all, ∀ name ∈ sectionNames, ∀ v ∈ lookup source name, v.IsMap

/-- Every source has distinct keys. -/
structure HaveDistinctKeys : Prop where
  overrides : HasDistinctKeys (.map x.overrides)
  environment : HasDistinctKeys (.map x.environment)
  library : HasDistinctKeys (.map x.library)
  user : HasDistinctKeys (.map x.user)

variable {x}

theorem first_eq (name : Text) : x.first name =
    ((lookup x.overrides name).or (lookup x.environment name)).or
      ((lookup x.library name).or (lookup x.user name)) := by
  simp only [first, all, List.findSome?_cons, List.findSome?_nil]
  cases lookup x.overrides name <;> cases lookup x.environment name <;>
    cases lookup x.library name <;> cases lookup x.user name <;> rfl

theorem mapsUnder_eq_within {name : Text} (h : ∀ v ∈ lookup x.library name, v.IsMap) :
    x.mapsUnder name = x.within name := if_pos h

/-- Sources whose settings have been loaded can be merged, if the overrides can. -/
theorem AreOf.haveDistinctKeys {s : Surroundings} {root : Path} {overrides : Entries}
    (h : x.AreOf s root overrides) (hoverrides : HasDistinctKeys (.map overrides)) :
    x.HaveDistinctKeys where
  overrides := by
    rw [h.overrides]
    exact hasDistinctKeys_spelled _ (hasDistinctKeys_map_iff.mp hoverrides).2
  environment := Environment.hasDistinctKeys_of_entries h.environment
  library := hasDistinctKeys_of_readEntries h.library
  user := hasDistinctKeys_of_readEntries h.user

theorem hasDistinctKeys_entriesOf_lookup {source : Entries} (h : HasDistinctKeys (.map source))
    (name : Text) : HasDistinctKeys (.map (entriesOf (lookup source name))) := by
  refine HasDistinctKeys.entriesOf fun v hv => ?_
  obtain ⟨a, ha⟩ := Table.exists_mem_of_get? hv
  exact (hasDistinctKeys_map_iff.mp h).2 _ ha

theorem HaveDistinctKeys.within (h : x.HaveDistinctKeys) (name : Text) :
    (x.within name).HaveDistinctKeys where
  overrides := hasDistinctKeys_entriesOf_lookup h.overrides name
  environment := hasDistinctKeys_entriesOf_lookup h.environment name
  library := hasDistinctKeys_entriesOf_lookup h.library name
  user := hasDistinctKeys_entriesOf_lookup h.user name

theorem HaveDistinctKeys.mapsUnder (h : x.HaveDistinctKeys) (name : Text) :
    (x.mapsUnder name).HaveDistinctKeys := by
  unfold Sources.mapsUnder
  split
  · exact h.within name
  · exact { h.within name with user := hasDistinctKeys_map_nil }

theorem HaveDistinctKeys.merged (h : x.HaveDistinctKeys) : x.merged.HasDistinctKeys :=
  hasDistinctKeys_merge (hasDistinctKeys_merge (hasDistinctKeys_map_iff.mp h.user).1 _) _

section

variable (h : x.HaveDistinctKeys) (name : Text)

include h

/-- Two sources are put over each other on either side, and then the two results. -/
theorem HaveDistinctKeys.lookup_merged : lookup x.merged name =
    overlay (overlay (lookup x.user name) (lookup x.library name))
      (overlay (lookup x.environment name) (lookup x.overrides name)) := by
  obtain ⟨hoverrides, _⟩ := hasDistinctKeys_map_iff.mp h.overrides
  obtain ⟨henvironment, _⟩ := hasDistinctKeys_map_iff.mp h.environment
  obtain ⟨hlibrary, _⟩ := hasDistinctKeys_map_iff.mp h.library
  rw [Sources.merged, Value.lookup_merge (hasDistinctKeys_merge henvironment _),
    Value.lookup_merge hlibrary, Value.lookup_merge hoverrides]

/-- Under a name that comes to no map, the first source that says anything counts. -/
theorem HaveDistinctKeys.lookup_merged_eq_first (hmap : ∀ v ∈ lookup x.merged name, ¬ v.IsMap) :
    lookup x.merged name = x.first name := by
  rw [h.lookup_merged] at hmap ⊢
  rw [overlay_overlay_eq_or hmap, first_eq]

/-- Under a name that comes to a map, the maps of the sources are put over each other. -/
theorem HaveDistinctKeys.entriesOf_lookup_merged (hmap : ∀ v ∈ lookup x.merged name, v.IsMap) :
    entriesOf (lookup x.merged name) = (x.mapsUnder name).merged := by
  rw [h.lookup_merged] at hmap ⊢
  have habove := isMap_of_overlay hmap
  have hkeys (source : Entries) (hsource : HasDistinctKeys (.map source)) :
      (entriesOf (lookup source name)).HasDistinctKeys :=
    (hasDistinctKeys_map_iff.mp (hasDistinctKeys_entriesOf_lookup hsource name)).1
  have hupper : entriesOf (overlay (lookup x.environment name) (lookup x.overrides name)) =
      merge (entriesOf (lookup x.environment name)) (entriesOf (lookup x.overrides name)) :=
    entriesOf_overlay (hkeys _ h.overrides) (isMap_of_overlay habove)
  have hlower : entriesOf (overlay (lookup x.user name) (lookup x.library name)) =
      merge (x.mapsUnder name).user (x.mapsUnder name).library := by
    unfold Sources.mapsUnder
    split
    · rename_i hlibrary
      exact entriesOf_overlay (hkeys _ h.library) hlibrary
    · rename_i hlibrary
      push Not at hlibrary
      obtain ⟨v, hv, hnot⟩ := hlibrary
      have hnone : (x.within name).library = [] := by
        rw [Sources.within, hv, entriesOf_of_not_isMap hnot]
      rw [hv, entriesOf_overlay_of_not_isMap hnot]
      exact (congrArg (merge []) hnone).symm
  rw [entriesOf_overlay ?_ habove, hupper, hlower]
  · unfold Sources.mapsUnder
    split <;> rfl
  · rw [hupper]
    exact hasDistinctKeys_merge (hkeys _ h.environment) _

end

end Sources

/-! ## Sections -/

/-- A section of the settings. -/
structure Section where
  Kind : Type
  name : Text
  schema : Schema Kind
  check : Entries → Check Kind
  describes : schema.Describes check
  get : Settings → Kind

/-- All sections. -/
def sections (homes : Homes) : List Section :=
  [⟨Logging, "logging", loggingSchema homes, checkLoggingEntries homes,
      loggingSchema_describes homes, Settings.logging⟩,
   ⟨Hints, "hints", hintSchema, checkHintEntries, hintSchema_describes, Settings.hints⟩,
   ⟨Source, "source", sourceSchema, checkSourceEntries, sourceSchema_describes, Settings.source⟩,
   ⟨Dialect, "dialect", dialectSchema, checkDialectEntries, dialectSchema_describes,
      Settings.dialect⟩]

/-- What a section holds in a field when a source says `said` about it, or no source does. -/
def Field.Holds {σ : Type} (f : Field σ) (base s : σ) : (said : Option Value) → Prop
  | some v => f.check v = .valid (f.get s)
  | none => f.get s = f.get base

/-- No map is a value of the field. -/
def Field.RefusesMaps {σ : Type} (f : Field σ) : Prop :=
  ∀ entries a, f.check (.map entries) ≠ .valid a

/-- The alias table is the only field that is a map. -/
theorem refusesMaps_of_mem_sections (homes : Homes) :
    ∀ sec ∈ sections homes, ∀ f ∈ sec.schema.fields,
      ¬ (sec.name = "hints" ∧ f.key = "mapping") → f.RefusesMaps := by
  simp only [sections, loggingSchema, hintSchema, sourceSchema, dialectSchema,
    List.forall_mem_cons, List.not_mem_nil]
  simp [Field.RefusesMaps, oneOf, checkOutputs, checkNameSet, Check.bool, checkPlainName,
    checkKeyword, textWith, Check.text, Check.andThen, fault]

section

variable {homes : Homes} {entries : Entries} {settings : Settings}

/-- A section is checked by its entries; where there is no such section, there are none. -/
theorem check_entriesOf_lookup {α : Type} {name word : Text} {base a : α}
    {check : Entries → Check α} (hbase : check [] = .valid base)
    (h : field entries name base (ofSection word check) = .valid a) :
    (∀ v ∈ lookup entries name, v.IsMap) ∧ check (entriesOf (lookup entries name)) = .valid a := by
  rcases Check.field_eq_valid_iff.mp h with ⟨hnone, rfl⟩ | ⟨v, hsome, hv⟩
  · rw [hnone]
    exact ⟨by simp, hbase⟩
  · obtain ⟨entries', rfl, hentries'⟩ := ofSection_eq_valid_iff.mp hv
    rw [hsome]
    exact ⟨by simp [IsMap], hentries'⟩

theorem check_of_mem_sections (h : checkEntries homes true entries = .valid settings) :
    ∀ sec ∈ sections homes,
      (∀ v ∈ lookup entries sec.name, v.IsMap) ∧
        sec.check (entriesOf (lookup entries sec.name)) = .valid (sec.get settings) := by
  obtain ⟨hreads, _⟩ := ((settingsSchema_describes homes true).valid_iff _ _).mp h
  simp only [settingsSchema, List.forall_mem_cons, Field.Reads] at hreads
  obtain ⟨hlogging, hhints, hsource, hdialect, _⟩ := hreads
  simp only [sections, List.forall_mem_cons, List.not_mem_nil]
  exact ⟨check_entriesOf_lookup rfl hlogging, check_entriesOf_lookup rfl hhints,
    check_entriesOf_lookup rfl hsource, check_entriesOf_lookup rfl hdialect, by simp⟩

end

/-! ## Fields and aliases -/

section

variable {x : Sources}

/-- A field that is no map holds what the first source says that says anything. -/
theorem Schema.Describes.holds_first {σ : Type} {schema : Schema σ} {check : Entries → Check σ}
    (hschema : schema.Describes check) (hx : x.HaveDistinctKeys) {s : σ}
    (hs : check x.merged = .valid s) {f : Field σ} (hf : f ∈ schema.fields)
    (hrefuses : f.RefusesMaps) : f.Holds schema.base s (x.first f.key) := by
  have hfield := ((hschema.valid_iff _ _).mp hs).1 f hf
  have hfirst : lookup x.merged f.key = x.first f.key := by
    refine hx.lookup_merged_eq_first f.key fun v hv hmap => ?_
    obtain ⟨entries, rfl⟩ := isMap_iff.mp hmap
    rcases Check.field_eq_valid_iff.mp hfield with ⟨hnone, _⟩ | ⟨w, hw, hvalid⟩
    · exact absurd (hv.symm.trans hnone) (by simp)
    · obtain rfl := Option.some.inj (hv.symm.trans hw)
      exact hrefuses _ _ hvalid
  rw [← hfirst]
  rcases Check.field_eq_valid_iff.mp hfield with ⟨hnone, hbase⟩ | ⟨w, hw, hvalid⟩
  · rw [hnone]
    exact hbase.symm
  · rw [hw]
    exact hvalid

theorem lookup_map_str (pairs : List (Text × Text)) (name : Text) :
    lookup (pairs.map fun e => (.str e.1, .str e.2)) name =
      (Table.get? pairs name).map Value.str := by
  induction pairs with
  | nil => rfl
  | cons e pairs ih =>
    obtain ⟨a, b⟩ := e
    rw [List.map_cons, lookup_cons, ih, Table.get?]
    have hkey : (Key.str a == Key.str name) = (a == name) := rfl
    rw [hkey]
    split <;> rfl

/-- An alias table is looked up like the map that it was checked from. -/
theorem get?_of_checkMapping {entries : Entries} {mapping : Table Text Text}
    (hkeys : entries.HasDistinctKeys) (h : checkMapping (.map entries) = .valid mapping)
    (name : Text) : lookup entries name = (Table.get? mapping name).map .str := by
  obtain ⟨pairs, hentries, _, rfl⟩ := checkMapping_eq_valid_iff.mp h
  obtain rfl := Value.map.inj hentries
  have hnodup : (Table.keys pairs).Nodup := by
    rw [Table.HasDistinctKeys, Table.keys, List.map_map, List.pairwise_map] at hkeys
    rw [Table.keys, List.Nodup, List.pairwise_map]
    refine hkeys.imp fun hne heq => absurd (Key.beq_str_iff.mpr ?_) (Bool.eq_false_iff.mp hne)
    exact congrArg Key.str heq
  rw [lookup_map_str, Table.ofPairs_eq_self hnodup]

/-- The aliases are those that the sources bring, each from the first source that has it. -/
theorem first_mapsUnder_mapping (hx : x.HaveDistinctKeys) {h : Hints}
    (hs : checkHintEntries x.merged = .valid h) (name : Text) :
    (x.mapsUnder "mapping").first name = (Table.get? h.mapping name).map .str := by
  have hfields := ((hintSchema_describes.valid_iff _ _).mp hs).1
  simp only [hintSchema, List.forall_mem_cons, Field.Reads] at hfields
  obtain ⟨hmapping, _⟩ := hfields
  have hmap : ∀ v ∈ lookup x.merged "mapping", v.IsMap := by
    intro v hv
    rcases Check.field_eq_valid_iff.mp hmapping with ⟨hnone, _⟩ | ⟨w, hw, hvalid⟩
    · exact absurd (hv.symm.trans hnone) (by simp)
    · obtain rfl := Option.some.inj (hv.symm.trans hw)
      obtain ⟨pairs, rfl, _⟩ := checkMapping_eq_valid_iff.mp hvalid
      trivial
  have hentries := hx.entriesOf_lookup_merged "mapping" hmap
  have hfound : lookup (x.mapsUnder "mapping").merged name =
      (Table.get? h.mapping name).map .str := by
    rw [← hentries]
    rcases Check.field_eq_valid_iff.mp hmapping with ⟨hnone, hbase⟩ | ⟨w, hw, hvalid⟩
    · rw [hnone, ← hbase]
      rfl
    · obtain ⟨entries, rfl⟩ := isMap_iff.mp (hmap w hw)
      rw [hw, entriesOf_map] at hentries ⊢
      refine get?_of_checkMapping ?_ hvalid name
      rw [hentries]
      exact (hx.mapsUnder _).merged
  rw [← hfound, (hx.mapsUnder _).lookup_merged_eq_first]
  rw [hfound]
  intro v hv
  obtain ⟨canonical, _, rfl⟩ := Option.map_eq_some_iff.mp hv
  exact id

end

/-! ## Loaded settings -/

section

variable {s : Surroundings} {root : Path} {overrides : Entries} {x : Sources} {settings : Settings}

theorem Sources.AreOf.load_eq (hx : x.AreOf s root overrides) :
    load s root overrides = accept s.home x.merged := by
  have huser : Readers.entries {} s.files s.userSettings = .ok x.user := hx.user
  have hlibrary : Readers.entries {} s.files (librarySettings root) = .ok x.library := hx.library
  have henvironment : s.environment.entriesWith Json.parse = .ok x.environment := hx.environment
  unfold load Readers.load Readers.layers
  rw [huser, hlibrary, henvironment, ← hx.overrides]
  rfl

/-- Where the sources have only maps as sections, a section is made of what they have in it. -/
theorem Sources.AreOf.check_within (hx : x.AreOf s root overrides) (hdistinct : x.HaveDistinctKeys)
    (hsections : x.HaveMapSections) (hload : load s root overrides = .ok settings) :
    ∀ sec ∈ sections s.home, sec.check (x.within sec.name).merged = .valid (sec.get settings) := by
  intro sec hsec
  rw [hx.load_eq] at hload
  obtain ⟨hmap, hcheck⟩ := check_of_mem_sections (checkEntries_of_accept hload) sec hsec
  have hname : sec.name ∈ sectionNames := List.mem_map_of_mem (f := Section.name) hsec
  have hlibrary : ∀ v ∈ lookup x.library sec.name, v.IsMap :=
    hsections x.library (by simp [Sources.all]) sec.name hname
  rwa [hdistinct.entriesOf_lookup_merged _ hmap, Sources.mapsUnder_eq_within hlibrary] at hcheck

/-- Loaded settings come from four sources.  Where every section is a map, the settings hold in each
field what the first source says that says anything, and the default where none does.  The alias
table is made of the sources alias by alias, the user's being left out where the library hides
them. -/
theorem load_holds_first (hoverrides : HasDistinctKeys (.map overrides))
    (hload : load s root overrides = .ok settings) :
    (∃ x : Sources, x.AreOf s root overrides) ∧
    ∀ x : Sources, x.AreOf s root overrides → x.HaveMapSections →
      (∀ sec ∈ sections s.home, ∀ f ∈ sec.schema.fields,
        ¬ (sec.name = "hints" ∧ f.key = "mapping") →
          f.Holds sec.schema.base (sec.get settings) ((x.within sec.name).first f.key)) ∧
      ∀ name, ((x.within "hints").mapsUnder "mapping").first name =
        (Table.get? settings.hints.mapping name).map .str := by
  constructor
  · obtain ⟨user, library, environment, huser, hlibrary, henvironment, _⟩ :=
      exists_layers_of_load hload
    exact ⟨⟨_, environment, library, user⟩, rfl, henvironment, hlibrary, huser⟩
  · intro x hx hsections
    have hdistinct := hx.haveDistinctKeys hoverrides
    have hcheck := hx.check_within hdistinct hsections hload
    constructor
    · intro sec hsec f hf hother
      exact sec.describes.holds_first (hdistinct.within _) (hcheck sec hsec) hf
        (refusesMaps_of_mem_sections s.home sec hsec f hf hother)
    · have hhints : checkHintEntries (x.within "hints").merged = .valid settings.hints :=
        hcheck ⟨Hints, "hints", hintSchema, checkHintEntries, hintSchema_describes, Settings.hints⟩
          (by simp [sections])
      exact first_mapsUnder_mapping (hdistinct.within _) hhints

end

/-- Two settings files: the user's, and that of a library at the root. -/
def settingsFiles (user library : Text) : FileTree :=
  { top := .dir [("user.yaml", .file (Text.Utf8.encode user)),
      (".defhint", .dir [("config.yaml", .file (Text.Utf8.encode library))])] }

/-- All four sources have a say: the environment goes over the user's file in one section, and in
another the other three bring aliases, some of them twice. -/
theorem load_holds_first_mixed :
    let s : Surroundings :=
      { files := settingsFiles "logging:\n  level: INFO\nhints:\n  mapping:\n    a: b\n    c: d"
          "hints:\n  mapping:\n    a: e\n    f: g"
        environment := [("DEFHINT__LOGGING__LEVEL", "DEBUG")]
        userSettings := .ofText "/user.yaml" }
    let overrides : Entries :=
      [(.str "Hints", .map [(.str "mapping", .map [(.str "f", .str "h")])])]
    let x : Sources :=
      { overrides := [(.str "hints", .map [(.str "mapping", .map [(.str "f", .str "h")])])]
        environment := [(.str "logging", .map [(.str "level", .str "DEBUG")])]
        library := [(.str "hints", .map [(.str "mapping",
          .map [(.str "a", .str "e"), (.str "f", .str "g")])])]
        user := [(.str "logging", .map [(.str "level", .str "INFO")]),
          (.str "hints", .map [(.str "mapping",
            .map [(.str "a", .str "b"), (.str "c", .str "d")])])] }
    x.AreOf s ⟨.root, []⟩ overrides ∧ HasDistinctKeys (.map overrides) ∧ x.HaveMapSections ∧
      ∃ settings, load s ⟨.root, []⟩ overrides = .ok settings ∧
        oneOf levelWords (.str "DEBUG") = .valid settings.logging.level ∧
        (Table.get? settings.hints.mapping "a").map Value.str = some (.str "e") ∧
        (Table.get? settings.hints.mapping "c").map Value.str = some (.str "d") ∧
        (Table.get? settings.hints.mapping "f").map Value.str = some (.str "h") := by
  intro s overrides x
  have huser : readEntries s.files s.userSettings = .ok x.user :=
    toOption_eq_some_iff.mp (by decide +kernel)
  have hlibrary : readEntries s.files (librarySettings ⟨.root, []⟩) = .ok x.library :=
    toOption_eq_some_iff.mp (by decide +kernel)
  have hx : x.AreOf s ⟨.root, []⟩ overrides := ⟨rfl, rfl, hlibrary, huser⟩
  have hoverrides : HasDistinctKeys (.map overrides) := by
    simp [overrides, hasDistinctKeys_map_iff, Table.HasDistinctKeys, Table.keys,
      HasDistinctKeys.str]
  have hsections : x.HaveMapSections := by
    unfold Sources.HaveMapSections
    decide
  have hsome : (accept s.home x.merged).toOption.isSome = true := by decide +kernel
  obtain ⟨settings, hsettings⟩ := Option.isSome_iff_exists.mp hsome
  have hload := hx.load_eq.trans (toOption_eq_some_iff.mp hsettings)
  obtain ⟨_, hfirst⟩ := load_holds_first hoverrides hload
  obtain ⟨hfields, haliases⟩ := hfirst x hx hsections
  refine ⟨hx, hoverrides, hsections, settings, hload, ?_, ?_, ?_, ?_⟩
  · exact hfields _ List.mem_cons_self ⟨Level, "level", oneOf levelWords, Logging.level, _⟩
      List.mem_cons_self (by decide)
  · exact (haliases "a").symm
  · exact (haliases "c").symm
  · exact (haliases "f").symm

/-- A library that sets the alias table to nothing hides the user's alias `a`, as soon as an
override brings the table back: of all sources the user's file is the first that has the alias, and
yet it is gone. -/
theorem load_alias_hidden :
    let s : Surroundings :=
      { files := settingsFiles "hints:\n  mapping:\n    a: b" "hints:\n  mapping:"
        userSettings := .ofText "/user.yaml" }
    let overrides : Entries :=
      [(.str "hints", .map [(.str "mapping", .map [(.str "c", .str "d")])])]
    let x : Sources :=
      { overrides
        environment := []
        library := [(.str "hints", .map [(.str "mapping", .null)])]
        user := [(.str "hints", .map [(.str "mapping", .map [(.str "a", .str "b")])])] }
    x.AreOf s ⟨.root, []⟩ overrides ∧ HasDistinctKeys (.map overrides) ∧ x.HaveMapSections ∧
      ((x.within "hints").within "mapping").first "a" = some (.str "b") ∧
      ∃ settings, load s ⟨.root, []⟩ overrides = .ok settings ∧
        Table.get? settings.hints.mapping "a" = none := by
  intro s overrides x
  have huser : readEntries s.files s.userSettings = .ok x.user :=
    toOption_eq_some_iff.mp (by decide +kernel)
  have hlibrary : readEntries s.files (librarySettings ⟨.root, []⟩) = .ok x.library :=
    toOption_eq_some_iff.mp (by decide +kernel)
  have hoverrides : HasDistinctKeys (.map overrides) := by
    simp [overrides, hasDistinctKeys_map_iff, Table.HasDistinctKeys, Table.keys,
      HasDistinctKeys.str]
  have hsections : x.HaveMapSections := by
    unfold Sources.HaveMapSections
    decide
  have hx : x.AreOf s ⟨.root, []⟩ overrides := ⟨rfl, rfl, hlibrary, huser⟩
  have hsome : (accept s.home x.merged).toOption =
      some { hints := { mapping := [("c", "d")] } } := by
    decide +kernel
  exact ⟨hx, hoverrides, hsections, rfl, _, hx.load_eq.trans (toOption_eq_some_iff.mp hsome), rfl⟩

end Signpost.Settings
