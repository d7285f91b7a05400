import Signpost.Proofs.Library
import Signpost.Proofs.Locator
import Signpost.Proofs.Settings.Schema
set_option autoImplicit false

/-!
# Where accepted names lead

The source settings take plain names only, and a plain name leads from a directory to something
right inside it, unless it is `..`: that one is plain as well, and it leads to the directory above.
What a locator finds is always a file (`Location.above_eq_found`), so that the module cannot be
named `..`; but the library can, and then its module stands beside the root and not inside it.
-/

namespace Signpost

namespace Path

theorem IsResolved.of_mem_ancestors {p q : Path} (h : p.IsResolved) (hq : q ∈ p.ancestors) :
    q.IsResolved := by
  obtain ⟨hanchor, hnames⟩ := isPrefix_of_mem_ancestors hq
  exact ⟨hanchor.trans h.1, fun hmem => h.2 (hnames.subset hmem)⟩

theorem IsResolved.eq_root_iff {p : Path} (h : p.IsResolved) : p = ⟨.root, []⟩ ↔ p.names = [] := by
  obtain ⟨anchor, names⟩ := p
  obtain ⟨rfl, _⟩ := h
  simp

/-- What a plain name denotes in a directory. -/
theorem resolve_join_ofText {p : Path} (hp : p.IsResolved) {t : Text} (ht : isPlainName t = true)
    (directory : Path) :
    resolve directory (p.join (ofText t)) = if t = parentName then p.parent else p.child t := by
  rw [join_ofText ht, resolve_child, (isResolved_iff directory).mp hp]

end Path

namespace Settings

open Check

/-- The names in accepted settings are plain. -/
theorem isPlainName_of_checkSource {v : Value} {s : Source} (h : checkSource v = .valid s) :
    Path.isPlainName s.libraryDir = true ∧ Path.isPlainName s.entryFile = true := by
  obtain ⟨entries, _, hentries⟩ := ofSection_eq_valid_iff.mp h
  obtain ⟨hreads, _⟩ := (sourceSchema_describes.valid_iff entries s).mp hentries
  obtain ⟨hlibrary, hreads⟩ := List.forall_mem_cons.mp hreads
  obtain ⟨hentry, _⟩ := List.forall_mem_cons.mp hreads
  exact ⟨Check.holds_of_field (by decide) hlibrary, Check.holds_of_field (by decide) hentry⟩

end Settings

namespace Location

variable {files : FileTree} {libraryDir entryFile : Text} {start : Path} {location : Location}
  {notice : Notice}

/-- What is found is a file in the library of one of the directories. -/
theorem search_eq_found {directories : List Path}
    (h : search files libraryDir entryFile start directories = .ok (some location, notice)) :
    location.root ∈ directories ∧ location = within location.root libraryDir entryFile ∧
      files.seeFile location.sourceFile = .ok true := by
  induction directories with
  | nil => simp [search] at h
  | cons here above ih =>
    rw [search] at h
    split at h
    · cases h
    · obtain ⟨hroot, hfound⟩ := ih h
      exact ⟨List.mem_cons_of_mem _ hroot, hfound⟩
    · split at h
      · cases h
      · rename_i hfile
        obtain ⟨rfl, _⟩ := by simpa using h
        exact ⟨List.mem_cons_self, rfl, hfile⟩
      · simp at h

/-- The module that is found has plain names below the root. -/
theorem above_eq_found (hlibrary : Path.isPlainName libraryDir = true)
    (hentry : Path.isPlainName entryFile = true) (hstart : start.IsResolved)
    (h : above files libraryDir entryFile start = .ok (some location, notice)) :
    location.root.IsResolved ∧
      location.sourceFile = (location.root.child libraryDir).child entryFile ∧
      entryFile ≠ Path.parentName := by
  obtain ⟨hroot, hwithin, hfile⟩ := search_eq_found h
  have hsource : location.sourceFile = (location.root.child libraryDir).child entryFile := by
    rw [hwithin, within, Path.join_ofText hlibrary, Path.join_ofText hentry]
  refine ⟨hstart.of_mem_ancestors hroot, hsource, ?_⟩
  rintro rfl
  rw [hsource] at hfile
  exact FileTree.seeFile_parentName_ne_true _ hfile

end Location

namespace Locator

variable {l : Locator} {files : FileTree} {p start : Path} {location : Location}

theorem isResolved_of_startOf (h : startOf files p = .ok start) : start.IsResolved := by
  have hresolved := Path.isResolved_resolve files.working p
  rw [eq_of_startOf h]
  split
  · exact hresolved
  · exact hresolved.parent

theorem above_of_lookUp (h : l.lookUp files start = .ok (some location)) :
    ∃ notice,
      Location.above files l.libraryDir l.entryFile start = .ok (some location, notice) := by
  unfold lookUp at h
  cases hfound : Location.above files l.libraryDir l.entryFile start with
  | error fault =>
    rw [hfound] at h
    cases h
  | ok result =>
    rw [hfound] at h
    obtain ⟨_, notice⟩ := result
    obtain rfl := Except.ok.inj h
    exact ⟨notice, rfl⟩

/-- What was found first was found by one of the turns. -/
theorem exists_lookUp_of_firstFound {turns : List Turn} {found : Option Location}
    (h : firstFound l start turns = some found) :
    ∃ turn ∈ turns, l.lookUp turn.files start = .ok found := by
  obtain ⟨turn, hturn, hfinds⟩ := List.exists_of_findSome?_eq_some h
  refine ⟨turn, (List.rtakeWhile_suffix _ _).subset hturn, ?_⟩
  obtain ⟨files, action⟩ := turn
  cases action with
  | locate q =>
    simp only [Turn.finds?] at hfinds
    split at hfinds
    · cases hlook : l.lookUp files start <;> simp_all [Except.toOption]
    · cases hfinds
  | forget q => cases hfinds
  | forgetAll => cases hfinds

/-- Whatever is remembered, it was looked up once. -/
theorem exists_above_of_answer (hnew : l.found = []) {turns : List Turn}
    (h : (l.after turns).answer files p = .ok (some location)) :
    ∃ past start notice, start.IsResolved ∧
      Location.above past l.libraryDir l.entryFile start = .ok (some location, notice) := by
  cases hstart : startOf files p with
  | error fault =>
    rw [answer_of_startOf_eq_error _ hstart] at h
    cases h
  | ok start =>
    have hresolved := isResolved_of_startOf hstart
    rw [(recalls_after hnew turns).answer_eq hstart] at h
    cases hfirst : firstFound l start turns with
    | some found =>
      rw [hfirst] at h
      obtain rfl := Except.ok.inj h
      obtain ⟨turn, _, hlook⟩ := exists_lookUp_of_firstFound hfirst
      obtain ⟨notice, habove⟩ := above_of_lookUp hlook
      exact ⟨turn.files, start, notice, hresolved, habove⟩
    | none =>
      rw [hfirst] at h
      obtain ⟨notice, habove⟩ := above_of_lookUp h
      exact ⟨files, start, notice, hresolved, habove⟩

/-- An accepted name denotes something right inside a directory, unless it is `..`.  The module of a
library that is found, now or at any time before, is inside the root, unless the library is named
`..` and the root is not that of all files. -/
theorem sourceFile_isInside_iff {data : Value} {s : Settings.Source}
    (hs : Settings.checkSource data = .valid s) :
    (∀ name, name = s.libraryDir ∨ name = s.entryFile → ∀ directory : Path, directory.IsResolved →
      ∀ working, Path.resolve working (directory.join (.ofText name)) =
        if name = Path.parentName then directory.parent else directory.child name) ∧
    ∀ turns files p location,
      ((ofSettings s).after turns).answer files p = .ok (some location) →
      ∀ working, (Path.resolve working location.sourceFile).IsInside
          (Path.resolve working location.root) ↔
        s.libraryDir ≠ Path.parentName ∨ location.root = ⟨.root, []⟩ := by
  obtain ⟨hlibrary, hentry⟩ := Settings.isPlainName_of_checkSource hs
  constructor
  · rintro name hname directory hdirectory working
    refine Path.resolve_join_ofText hdirectory ?_ working
    rcases hname with rfl | rfl
    · exact hlibrary
    · exact hentry
  · intro turns files p location h working
    obtain ⟨past, start, notice, hstart, habove⟩ := exists_above_of_answer rfl h
    obtain ⟨hroot, hsource, hentryUp⟩ : location.root.IsResolved ∧
        location.sourceFile = (location.root.child s.libraryDir).child s.entryFile ∧
        s.entryFile ≠ Path.parentName := Location.above_eq_found hlibrary hentry hstart habove
    rw [hsource, Path.resolve_child, if_neg hentryUp, Path.resolve_child,
      (Path.isResolved_iff working).mp hroot, hroot.eq_root_iff]
    by_cases hup : s.libraryDir = Path.parentName
    · rw [if_pos hup, Path.isInside_parent_child_iff]
      simp [hup]
    · rw [if_neg hup]
      exact iff_of_true (Path.isInside_child_child _ _ _) (.inl hup)

/-- The library is found, and then it is gone; the module that is remembered is inside the root. -/
theorem sourceFile_isInside_remembered :
    let data : Value := .map [(.str "library_dir", .str "lib"), (.str "entry_file", .str "..m")]
    let s : Settings.Source := { libraryDir := "lib", entryFile := "..m" }
    let past : FileTree := { top := .dir [("a", .dir [("lib", .dir [("..m", .file [])])])] }
    let turns : List Turn := [⟨past, .locate (.ofText "/a/f.py")⟩]
    let files : FileTree := { top := .dir [("a", .dir [])] }
    let location : Location := ⟨.ofText "/a", .ofText "/a/lib", .ofText "/a/lib/..m"⟩
    Settings.checkSource data = .valid s ∧
      ((ofSettings s).after turns).answer files (.ofText "/a") = .ok (some location) ∧
      (∀ working, Path.resolve working ((Path.ofText "/a").join (.ofText "..m")) =
        .ofText "/a/..m") ∧
      ∀ working, (Path.resolve working location.sourceFile).IsInside
        (Path.resolve working location.root) := by
  intro data s past turns files location
  have hs : Settings.checkSource data = .valid s := rfl
  have hanswer :
      ((ofSettings s).after turns).answer files (.ofText "/a") = .ok (some location) := by
    decide +kernel
  obtain ⟨hnames, hinside⟩ := sourceFile_isInside_iff hs
  refine ⟨hs, hanswer, fun working => ?_, fun working => ?_⟩
  · rw [hnames "..m" (.inr rfl) (.ofText "/a") (by decide +kernel) working]
    decide +kernel
  · exact (hinside turns files _ location hanswer working).mpr (.inl (by decide))

/-- The name `..` is accepted for the library, and its module stands beside the root. -/
theorem sourceFile_beside_root :
    let data : Value := .map [(.str "library_dir", .str "..")]
    let s : Settings.Source := { libraryDir := ".." }
    let files : FileTree := { top := .dir [("a", .dir [("b", .dir []), ("main.py", .file [])])] }
    let location : Location := ⟨.ofText "/a/b", .ofText "/a/b/..", .ofText "/a/b/../main.py"⟩
    Settings.checkSource data = .valid s ∧
      (ofSettings s).answer files (.ofText "/a/b") = .ok (some location) ∧
      files.resolve ((Path.ofText "/a/b").join (.ofText s.libraryDir)) = .ofText "/a" ∧
      files.resolve location.sourceFile = .ofText "/a/main.py" ∧
      ¬ (files.resolve location.sourceFile).IsInside (files.resolve location.root) := by
  intro data s files location
  have hs : Settings.checkSource data = .valid s := rfl
  exact ⟨hs, by decide +kernel⟩

end Locator

end Signpost
