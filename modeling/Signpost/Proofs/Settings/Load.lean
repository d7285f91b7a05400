import Signpost.Proofs.Settings.Environment
import Signpost.Proofs.Settings.Recheck
set_option autoImplicit false

/-!
# What keeps settings from being loaded

A malformed setting is to be reported to the user.  Some faults are not reported, and they are the
obstacles of this module (`Obstacle`): a settings file that is locked, is a directory, has too long
a path, is no text or writes what does not exist; a malformed variable; a key that is no text where
the sections are; an output of the log in a home directory that nobody knows; and a refused setting
that cannot be shown.

Nothing else stands in the way (`load_cases`): without an obstacle the settings are loaded, or the
user is told what is wrong with them.  This holds however settings files and variables are read, as
long as what is read is followed here (`Unfollowed`).
-/

namespace Signpost

/-- A report that a settings file is malformed or a setting is refused. -/
def Report.IsAboutSettings (r : Report) : Prop :=
  r.code = .settingsUnparsed ∨ r.code = .settingsInvalid

/-- A refused setting is reported if it can be shown. -/
theorem Report.exists_invalidSetting {given : Value} (h : given.isShowable = true)
    (field reason : Text) :
    ∃ r, invalidSetting? field given reason = some r ∧ r.code = .settingsInvalid := by
  simp [invalidSetting?, Value.text?, h]

namespace Settings

open Text

/-! ## Keys that are texts -/

/-- All keys are texts. -/
def HasOnlyTexts (entries : Entries) : Prop := ∀ e ∈ entries, e.1.text?.isSome = true

theorem hasOnlyTexts_nil : HasOnlyTexts [] := by simp [HasOnlyTexts]

theorem hasOnlyTexts_cons {e : Key × Value} {entries : Entries} :
    HasOnlyTexts (e :: entries) ↔ e.1.text?.isSome = true ∧ HasOnlyTexts entries :=
  List.forall_mem_cons

theorem hasOnlyTexts_append {entries entries' : Entries} :
    HasOnlyTexts (entries ++ entries') ↔ HasOnlyTexts entries ∧ HasOnlyTexts entries' :=
  List.forall_mem_append

/-- Keys that stand for the same entry are texts together. -/
theorem isSome_text?_of_same {k k' : Key} (h : (k == k') = true) :
    k.text?.isSome = k'.text?.isSome := by
  have hsame : k.same k' = true := h
  cases k <;> cases k' <;> simp_all [Key.same, Key.number?, Key.text?]

theorem hasOnlyTexts_insert (entries : Entries) (k : Key) (v : Value) :
    HasOnlyTexts (Table.insert entries k v) ↔ HasOnlyTexts entries ∧ k.text?.isSome = true := by
  induction entries with
  | nil => simp [Table.insert, HasOnlyTexts]
  | cons e rest ih =>
    obtain ⟨a, b⟩ := e
    cases h : a == k with
    | true =>
      have hsame := isSome_text?_of_same h
      simp only [Table.insert, h, if_true, hasOnlyTexts_cons, hsame]
      tauto
    | false =>
      simp only [Table.insert, h, Bool.false_eq_true, if_false, hasOnlyTexts_cons, ih]
      tauto

theorem hasOnlyTexts_merge (base above : Entries) :
    HasOnlyTexts (Value.merge base above) ↔ HasOnlyTexts base ∧ HasOnlyTexts above := by
  induction above generalizing base with
  | nil => simp [Value.merge, HasOnlyTexts]
  | cons e rest ih =>
    obtain ⟨k, v⟩ := e
    rw [Value.merge, ih, hasOnlyTexts_insert, hasOnlyTexts_cons, and_assoc]

theorem hasOnlyTexts_update (entries above : Entries) :
    HasOnlyTexts (Table.update entries above) ↔ HasOnlyTexts entries ∧ HasOnlyTexts above := by
  induction above generalizing entries with
  | nil => simp [Table.update, HasOnlyTexts]
  | cons e rest ih =>
    rw [Table.update_cons, ih, hasOnlyTexts_insert, hasOnlyTexts_cons, and_assoc]

theorem hasOnlyTexts_spelled (known : List Text) (entries : Entries) :
    HasOnlyTexts (Environment.spelled known entries) ↔ HasOnlyTexts entries := by
  unfold Environment.spelled Table.ofPairs
  simp only [hasOnlyTexts_update, hasOnlyTexts_nil, true_and]
  induction entries with
  | nil => rfl
  | cons e rest ih =>
    obtain ⟨k, v⟩ := e
    rw [List.map_cons, hasOnlyTexts_cons, hasOnlyTexts_cons, ih]
    cases k with
    | str t =>
      dsimp only
      split <;> rfl
    | _ => rfl

theorem hasOnlyTexts_entriesFrom {json : Text → Except Unread Value} {env : Environment}
    {sections : List (Text × List (Text × Bool))} {entries : Entries}
    (h : Environment.entriesFrom json env sections = .ok entries) : HasOnlyTexts entries := by
  induction sections generalizing entries with
  | nil =>
    obtain rfl := Except.ok.inj h
    exact hasOnlyTexts_nil
  | cons e rest ih =>
    obtain ⟨name, keys⟩ := e
    rw [Environment.entriesFrom] at h
    split at h
    · simp at h
    · exact ih h
    · obtain ⟨entries', hrest, rfl⟩ := map_eq_ok_iff.mp h
      exact hasOnlyTexts_cons.mpr ⟨rfl, ih hrest⟩

/-! ## One settings file -/

/-- Why a settings file is not read, other than being malformed. -/
inductive FileObstacle (r : Readers) (files : FileTree) (path : Path) : LoadFault → Prop
  /-- Its path is too long. -/
  | tooLong (h : files.find path = .error .tooLong) :
      FileObstacle r files path (.unreadable (.unopened .tooLong))
  /-- Something on the way to it is locked. -/
  | denied (h : files.find path = .error .denied) :
      FileObstacle r files path (.unreadable (.unopened .denied))
  /-- It is locked itself. -/
  | locked {isDirectory : Bool} (h : files.find path = .ok (.locked isDirectory)) :
      FileObstacle r files path (.unreadable (.unopened .denied))
  /-- It is a directory. -/
  | directory {entries : List (Text × Node)} (h : files.find path = .ok (.dir entries)) :
      FileObstacle r files path (.unreadable (.unopened .isDirectory))
  /-- It is no text. -/
  | noText {bytes : List UInt8} {fault : Utf8.Fault} (hfile : files.find path = .ok (.file bytes))
      (h : r.yaml bytes = .error (.undecoded fault)) :
      FileObstacle r files path (.unreadable (.undecoded fault))
  /-- It writes a number, a date or a character that does not exist. -/
  | unrepresentable {bytes : List UInt8} (hfile : files.find path = .ok (.file bytes))
      (h : r.yaml bytes = .error .unrepresentable) : FileObstacle r files path .unrepresentable

/-- A settings file that is not followed here. -/
def IsUnfollowedFile (r : Readers) (files : FileTree) (path : Path) : Prop :=
  ∃ bytes, files.find path = .ok (.file bytes) ∧ r.yaml bytes = .error .unfollowed

section

variable {r : Readers} {files : FileTree} {path : Path} {fault : LoadFault}

theorem entries_of_file {bytes : List UInt8} (h : files.find path = .ok (.file bytes)) :
    r.entries files path =
      match r.yaml bytes with
      | .error why =>
        .error (.ofUnread (.reported (.unparsedSettings path.text malformedReason)) why)
      | .ok .null => .ok []
      | .ok (.map entries) => .ok entries
      | .ok _ => .error (.reported (.unparsedSettings path.text notMapReason)) := by
  cases hread : r.yaml bytes with
  | error why => simp [Readers.entries, FileTree.look, FileTree.readBytes, h, hread]
  | ok v => cases v <;> simp [Readers.entries, FileTree.look, FileTree.readBytes, h, hread]

theorem FileObstacle.entries_eq (h : FileObstacle r files path fault) :
    r.entries files path = .error fault := by
  cases h with
  | tooLong h => simp [Readers.entries, FileTree.look, h]
  | denied h => simp [Readers.entries, FileTree.look, h]
  | locked h => simp [Readers.entries, FileTree.look, FileTree.readBytes, h]
  | directory h => simp [Readers.entries, FileTree.look, FileTree.readBytes, h]
  | noText hfile h => simp [entries_of_file hfile, h, LoadFault.ofUnread]
  | unrepresentable hfile h => simp [entries_of_file hfile, h, LoadFault.ofUnread]

theorem IsUnfollowedFile.entries_eq (h : IsUnfollowedFile r files path) :
    r.entries files path = .error .unfollowed := by
  obtain ⟨bytes, hfile, hread⟩ := h
  simp [entries_of_file hfile, hread, LoadFault.ofUnread]

/-- A settings file is read or reported, or else has an obstacle or is not followed here. -/
theorem entries_cases (r : Readers) (files : FileTree) (path : Path) :
    (∃ entries, r.entries files path = .ok entries) ∨
      (∃ reason, r.entries files path =
        .error (.reported (.unparsedSettings path.text reason))) ∨
      (∃ fault, FileObstacle r files path fault) ∨ IsUnfollowedFile r files path := by
  cases hfind : files.find path with
  | error pathFault =>
    cases pathFault with
    | tooLong => exact .inr (.inr (.inl ⟨_, .tooLong hfind⟩))
    | denied => exact .inr (.inr (.inl ⟨_, .denied hfind⟩))
    | _ => exact .inl ⟨[], by simp [Readers.entries, FileTree.look, hfind]⟩
  | ok node =>
    cases node with
    | dir entries => exact .inr (.inr (.inl ⟨_, .directory hfind⟩))
    | locked isDirectory => exact .inr (.inr (.inl ⟨_, .locked hfind⟩))
    | file bytes =>
      have hentries := entries_of_file (r := r) hfind
      cases hread : r.yaml bytes with
      | error why =>
        rw [hread] at hentries
        cases why with
        | malformed => exact .inr (.inl ⟨_, hentries⟩)
        | undecoded fault => exact .inr (.inr (.inl ⟨_, .noText hfind hread⟩))
        | unrepresentable => exact .inr (.inr (.inl ⟨_, .unrepresentable hfind hread⟩))
        | unfollowed => exact .inr (.inr (.inr ⟨bytes, hfind, hread⟩))
      | ok v =>
        rw [hread] at hentries
        cases v with
        | null => exact .inl ⟨_, hentries⟩
        | map entries => exact .inl ⟨_, hentries⟩
        | _ => exact .inr (.inl ⟨_, hentries⟩)

end

/-! ## Obstacles -/

/-- Whether loading ends at a fault that nobody gets a report about. -/
def LoadFault.isSilent : LoadFault → Bool
  | .reported _ | .unfollowed => false
  | _ => true

/-- Why settings are not loaded, other than for a fault that is reported. -/
inductive Obstacle (r : Readers) (s : Surroundings) (root : Path) (overrides : Entries) :
    LoadFault → Prop
  /-- The user's settings file is not read. -/
  | userFile {fault : LoadFault} (h : FileObstacle r s.files s.userSettings fault) :
      Obstacle r s root overrides fault
  /-- The library's settings file is not read. -/
  | libraryFile {fault : LoadFault} {user : Entries}
      (huser : r.entries s.files s.userSettings = .ok user)
      (h : FileObstacle r s.files (librarySettings root) fault) :
      Obstacle r s root overrides fault
  /-- A variable cannot be read. -/
  | environment {user library : Entries} {name : Text} {why : Unread}
      (huser : r.entries s.files s.userSettings = .ok user)
      (hlibrary : r.entries s.files (librarySettings root) = .ok library)
      (h : (Environment.lowered s.environment).FirstUnread r.json Environment.sections name why)
      (hwhy : why ≠ .unfollowed) :
      Obstacle r s root overrides (.ofUnread (.environment name) why)
  /-- Where the sections are, there is a key that is no text. -/
  | key {user library environment : Entries}
      (huser : r.entries s.files s.userSettings = .ok user)
      (hlibrary : r.entries s.files (librarySettings root) = .ok library)
      (henvironment : s.environment.entriesWith r.json = .ok environment)
      (h : ¬ HasOnlyTexts (user ++ library ++ overrides)) : Obstacle r s root overrides .keyNotText
  /-- An output of the log goes to an unknown home directory. -/
  | home {entries : Entries} (hlayers : r.layers s root overrides = .ok entries)
      (hkeys : HasOnlyTexts entries) (h : HasUnknownHome s.home entries) :
      Obstacle r s root overrides .noHome
  /-- The first setting that is refused cannot be shown. -/
  | unshowable {entries : Entries} {first : Fault} {others : List Fault}
      (hlayers : r.layers s root overrides = .ok entries) (hkeys : HasOnlyTexts entries)
      (hhome : ¬ HasUnknownHome s.home entries)
      (h : checkEntries s.home true entries = .invalid first others)
      (hgiven : first.given.isShowable = false) : Obstacle r s root overrides .unshowable

/-- Of the files and variables that settings are loaded from, the first that cannot be read is not
followed here. -/
inductive Unfollowed (r : Readers) (s : Surroundings) (root : Path) : Prop
  | userFile (h : IsUnfollowedFile r s.files s.userSettings) : Unfollowed r s root
  | libraryFile {user : Entries} (huser : r.entries s.files s.userSettings = .ok user)
      (h : IsUnfollowedFile r s.files (librarySettings root)) : Unfollowed r s root
  | environment {user library : Entries} {name : Text}
      (huser : r.entries s.files s.userSettings = .ok user)
      (hlibrary : r.entries s.files (librarySettings root) = .ok library)
      (h : (Environment.lowered s.environment).FirstUnread r.json Environment.sections name
        .unfollowed) : Unfollowed r s root

section

variable {r : Readers} {s : Surroundings} {root : Path} {overrides entries : Entries}
  {fault : LoadFault}

theorem load_of_userFile (h : r.entries s.files s.userSettings = .error fault) :
    r.load s root overrides = .error fault := by
  unfold Readers.load Readers.layers
  rw [h]
  rfl

theorem load_of_libraryFile {user : Entries} (huser : r.entries s.files s.userSettings = .ok user)
    (h : r.entries s.files (librarySettings root) = .error fault) :
    r.load s root overrides = .error fault := by
  unfold Readers.load Readers.layers
  rw [huser, h]
  rfl

theorem load_of_environment {user library : Entries} {name : Text} {why : Unread}
    (huser : r.entries s.files s.userSettings = .ok user)
    (hlibrary : r.entries s.files (librarySettings root) = .ok library)
    (h : (Environment.lowered s.environment).FirstUnread r.json Environment.sections name why) :
    r.load s root overrides = .error (.ofUnread (.environment name) why) := by
  unfold Readers.load Readers.layers
  rw [huser, hlibrary, (Environment.entriesWith_eq_error_iff _ _ _ _).mpr h]
  rfl

theorem load_of_layers (h : r.layers s root overrides = .ok entries) :
    r.load s root overrides = accept s.home entries := by
  unfold Readers.load
  rw [h]
  rfl

/-- All sources are put together once each can be had.  Then all keys are texts if they are in the
files and in the overrides; in the environment they always are. -/
theorem exists_layers {user library environment : Entries}
    (huser : r.entries s.files s.userSettings = .ok user)
    (hlibrary : r.entries s.files (librarySettings root) = .ok library)
    (henvironment : s.environment.entriesWith r.json = .ok environment) (overrides : Entries) :
    ∃ merged, r.layers s root overrides = .ok merged ∧
      (HasOnlyTexts merged ↔ HasOnlyTexts (user ++ library ++ overrides)) := by
  have htexts : HasOnlyTexts environment := hasOnlyTexts_entriesFrom henvironment
  refine ⟨Value.merge (Value.merge user library)
    (Value.merge environment (Environment.spelled sectionNames overrides)), ?_, ?_⟩
  · unfold Readers.layers
    rw [huser, hlibrary, henvironment]
    rfl
  · simp only [hasOnlyTexts_merge, hasOnlyTexts_spelled, hasOnlyTexts_append, htexts, true_and]

/-! ## Checking -/

theorem accept_of_key {homes : Homes} (h : ¬ HasOnlyTexts entries) :
    accept homes entries = .error .keyNotText := by
  have hall : ¬ (entries.all fun e => e.1.text?.isSome) = true := fun hall =>
    h (List.all_eq_true.mp hall)
  rw [accept, if_neg hall]

theorem accept_of_texts {homes : Homes} (h : HasOnlyTexts entries) :
    accept homes entries =
      match (checkEntries homes true entries).outcome with
      | .accepted settings => .ok settings
      | .noHome => .error .noHome
      | .refused f _ =>
        match Report.invalidSetting? f.field f.given f.cause.message with
        | some report => .error (.reported report)
        | none => .error .unshowable := by
  exact if_pos (List.all_eq_true.mpr h)

theorem accept_of_unknownHome {homes : Homes} (hkeys : HasOnlyTexts entries)
    (h : HasUnknownHome homes entries) : accept homes entries = .error .noHome := by
  have hfinds := (checkEntries_finds_home_iff homes true entries).mpr h
  have hnoHome := (Check.outcome_eq_noHome_iff _).mpr hfinds
  rw [accept_of_texts hkeys, hnoHome]

/-- Where every home directory is known, settings are accepted, or the first fault decides: it is
reported if what was given can be shown. -/
theorem accept_of_knownHome {homes : Homes} (hkeys : HasOnlyTexts entries)
    (h : ¬ HasUnknownHome homes entries) :
    accept homes entries =
      match checkEntries homes true entries with
      | .valid settings => .ok settings
      | .invalid f _ =>
        match Report.invalidSetting? f.field f.given f.cause.message with
        | some report => .error (.reported report)
        | none => .error .unshowable := by
  rw [accept_of_texts hkeys]
  have hknown : (checkEntries homes true entries).outcome ≠ .noHome := fun hnoHome =>
    h ((checkEntries_finds_home_iff homes true _).mp ((Check.outcome_eq_noHome_iff _).mp hnoHome))
  cases hcheck : checkEntries homes true entries with
  | valid settings => rfl
  | invalid first others =>
    rw [hcheck] at hknown
    rw [Check.outcome_of_ne_noHome hknown]

/-! ## Everything that can happen -/

/-- An obstacle is what loading comes to. -/
theorem Obstacle.load_eq (h : Obstacle r s root overrides fault) :
    r.load s root overrides = .error fault := by
  cases h with
  | userFile h => exact load_of_userFile h.entries_eq
  | libraryFile huser h => exact load_of_libraryFile huser h.entries_eq
  | environment huser hlibrary h _ => exact load_of_environment huser hlibrary h
  | key huser hlibrary henvironment h =>
    obtain ⟨merged, hlayers, hkeys⟩ := exists_layers huser hlibrary henvironment overrides
    rw [load_of_layers hlayers]
    exact accept_of_key (h ∘ hkeys.mp)
  | home hlayers hkeys h =>
    rw [load_of_layers hlayers]
    exact accept_of_unknownHome hkeys h
  | unshowable hlayers hkeys hhome h hgiven =>
    rw [load_of_layers hlayers, accept_of_knownHome hkeys hhome, h]
    simp [Report.invalidSetting?, Value.text?, hgiven]

theorem Unfollowed.load_eq (h : Unfollowed r s root) (overrides : Entries) :
    r.load s root overrides = .error .unfollowed := by
  cases h with
  | userFile h => exact load_of_userFile h.entries_eq
  | libraryFile huser h => exact load_of_libraryFile huser h.entries_eq
  | environment huser hlibrary h => exact load_of_environment huser hlibrary h

theorem FileObstacle.isSilent {files : FileTree} {path : Path}
    (h : FileObstacle r files path fault) : fault.isSilent = true := by
  cases h <;> rfl

/-- No obstacle is reported, and none stands for something that is not followed here. -/
theorem Obstacle.isSilent (h : Obstacle r s root overrides fault) : fault.isSilent = true := by
  cases h with
  | userFile h => exact h.isSilent
  | libraryFile _ h => exact h.isSilent
  | @environment _ _ _ why _ _ _ hwhy =>
    cases why with
    | unfollowed => exact absurd rfl hwhy
    | _ => rfl
  | _ => rfl

/-- The sources are put together with texts as keys, or else loading ends before anything is
checked. -/
theorem layers_cases (r : Readers) (s : Surroundings) (root : Path) (overrides : Entries) :
    (∃ merged, r.layers s root overrides = .ok merged ∧ HasOnlyTexts merged) ∨
      (∃ report : Report, report.IsAboutSettings ∧
        r.load s root overrides = .error (.reported report)) ∨
      Unfollowed r s root ∨ ∃ fault, Obstacle r s root overrides fault := by
  rcases entries_cases r s.files s.userSettings with
    ⟨user, huser⟩ | ⟨reason, hreason⟩ | ⟨fault, h⟩ | h
  · rcases entries_cases r s.files (librarySettings root) with
      ⟨library, hlibrary⟩ | ⟨reason, hreason⟩ | ⟨fault, h⟩ | h
    · cases henvironment : s.environment.entriesWith r.json with
      | error first =>
        obtain ⟨name, why⟩ := first
        have hfirst := (Environment.entriesWith_eq_error_iff _ _ _ _).mp henvironment
        by_cases hwhy : why = .unfollowed
        · exact .inr (.inr (.inl (.environment huser hlibrary (hwhy ▸ hfirst))))
        · exact .inr (.inr (.inr ⟨_, .environment huser hlibrary hfirst hwhy⟩))
      | ok environment =>
        obtain ⟨merged, hlayers, htexts⟩ := exists_layers huser hlibrary henvironment overrides
        by_cases hkeys : HasOnlyTexts merged
        · exact .inl ⟨merged, hlayers, hkeys⟩
        · exact .inr (.inr (.inr ⟨_, .key huser hlibrary henvironment (hkeys ∘ htexts.mpr)⟩))
    · exact .inr (.inl ⟨_, .inl rfl, load_of_libraryFile huser hreason⟩)
    · exact .inr (.inr (.inr ⟨_, .libraryFile huser h⟩))
    · exact .inr (.inr (.inl (.libraryFile huser h)))
  · exact .inr (.inl ⟨_, .inl rfl, load_of_userFile hreason⟩)
  · exact .inr (.inr (.inr ⟨_, .userFile h⟩))
  · exact .inr (.inr (.inl (.userFile h)))

/-- What has been put together, with texts as keys, is accepted or reported, or else there is an
obstacle in it. -/
theorem load_cases_of_layers (hlayers : r.layers s root overrides = .ok entries)
    (hkeys : HasOnlyTexts entries) :
    (∃ settings, r.load s root overrides = .ok settings) ∨
      (∃ report : Report, report.IsAboutSettings ∧
        r.load s root overrides = .error (.reported report)) ∨
      ∃ fault, Obstacle r s root overrides fault := by
  have hload := load_of_layers hlayers
  by_cases hhome : HasUnknownHome s.home entries
  · exact .inr (.inr ⟨_, .home hlayers hkeys hhome⟩)
  · rw [accept_of_knownHome hkeys hhome] at hload
    cases hcheck : checkEntries s.home true entries with
    | valid settings => exact .inl ⟨settings, by rw [hload, hcheck]⟩
    | invalid first others =>
      cases hgiven : first.given.isShowable with
      | false => exact .inr (.inr ⟨_, .unshowable hlayers hkeys hhome hcheck hgiven⟩)
      | true =>
        obtain ⟨report, hreport, hcode⟩ := Report.exists_invalidSetting hgiven
          first.field first.cause.message
        exact .inr (.inl ⟨report, .inr hcode, by rw [hload, hcheck]; simp [hreport]⟩)

/-- Loading ends with settings, with a report about them, at an obstacle, or at something that is
not followed here. -/
theorem load_cases (r : Readers) (s : Surroundings) (root : Path) (overrides : Entries) :
    (∃ settings, r.load s root overrides = .ok settings) ∨
      (∃ report : Report, report.IsAboutSettings ∧
        r.load s root overrides = .error (.reported report)) ∨
      Unfollowed r s root ∨ ∃ fault, Obstacle r s root overrides fault := by
  rcases layers_cases r s root overrides with ⟨merged, hlayers, hkeys⟩ | hended
  · rcases load_cases_of_layers hlayers hkeys with hok | hreport | hobstacle
    · exact .inl hok
    · exact .inr (.inl hreport)
    · exact .inr (.inr (.inr hobstacle))
  · exact .inr hended

end

/-- However settings files and variables are read: settings are loaded, or the user gets a report
about them, or something is not followed here, exactly if there is no obstacle.  An obstacle is what
loading comes to, without any report.  And loaded settings are accepted when they are checked once
more, as home directories are normal. -/
theorem load_settled_or_reported_iff (r : Readers) (s : Surroundings) (root : Path)
    (overrides : Entries) :
    (((∃ settings, r.load s root overrides = .ok settings) ∨
        (∃ report : Report, report.IsAboutSettings ∧
          r.load s root overrides = .error (.reported report)) ∨
        Unfollowed r s root) ↔
      ¬ ∃ fault, Obstacle r s root overrides fault) ∧
    (∀ fault, Obstacle r s root overrides fault → r.load s root overrides = .error fault) ∧
    ∀ settings, s.home.IsNormal → r.load s root overrides = .ok settings →
      check s.home settings.toValue = .valid settings := by
  refine ⟨⟨?_, ?_⟩, fun fault h => h.load_eq, fun settings => check_toValue_of_load⟩
  · rintro hsettled ⟨fault, hobstacle⟩
    have hload := hobstacle.load_eq
    have hsilent := hobstacle.isSilent
    rcases hsettled with ⟨settings, hok⟩ | ⟨report, _, hreport⟩ | hunfollowed
    · simp [hok] at hload
    · obtain rfl := Except.error.inj (hreport.symm.trans hload)
      simp [LoadFault.isSilent] at hsilent
    · obtain rfl := Except.error.inj ((hunfollowed.load_eq overrides).symm.trans hload)
      simp [LoadFault.isSilent] at hsilent
  · intro hnone
    rcases load_cases r s root overrides with hok | hreport | hunfollowed | hobstacle
    · exact .inl hok
    · exact .inr (.inl hreport)
    · exact .inr (.inr hunfollowed)
    · exact absurd hobstacle hnone

/-- A number where the name of a section should be is neither accepted nor reported. -/
theorem load_number_for_section :
    let s : Surroundings :=
      { userSettings := .ofText "/user.yaml"
        files := { top := .dir [(".defhint", .dir [("config.yaml", .file (Utf8.encode "1: x"))])] } }
    load s ⟨.root, []⟩ [] = .error .keyNotText ∧
      ¬ ((∃ settings, load s ⟨.root, []⟩ [] = .ok settings) ∨
        ∃ r : Report, r.IsAboutSettings ∧ load s ⟨.root, []⟩ [] = .error (.reported r)) := by
  intro s
  have hfault : (load s ⟨.root, []⟩ [] matches .error .keyNotText) = true := by decide +kernel
  have hload : load s ⟨.root, []⟩ [] = .error .keyNotText := by
    generalize load s ⟨.root, []⟩ [] = outcome at hfault ⊢
    split at hfault
    · rfl
    · simp at hfault
  refine ⟨hload, ?_⟩
  rintro (⟨settings, hok⟩ | ⟨r, _, hreport⟩)
  · simp [hload] at hok
  · simp [hload] at hreport

end Settings

end Signpost
