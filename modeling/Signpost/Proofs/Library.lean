import Mathlib.Data.List.Infix
import Signpost.Library
import Signpost.Proofs.FileTree
set_option autoImplicit false

/-!
# The nearest library

A library is looked for from a directory upwards, and the nearest directory that has one decides
(`Node.IsNearest`).  So the search comes to what it comes to in that directory alone, whatever there
is further up (`Location.search_cases`), and it fails only where something hinders a look-up: a path
or a name that is too long, or a directory that is locked.
-/

namespace Signpost

namespace Path

@[simp] theorem ancestors_nil (anchor : Anchor) : ancestors ⟨anchor, []⟩ = [⟨anchor, []⟩] := rfl

/-- A path is the nearest one at or above itself, and above it come those above its parent. -/
theorem ancestors_concat (anchor : Anchor) (names : List Text) (n : Text) :
    ancestors ⟨anchor, names ++ [n]⟩ = ⟨anchor, names ++ [n]⟩ :: ancestors ⟨anchor, names⟩ := by
  unfold ancestors
  rw [List.length_append, List.length_singleton, List.range_succ_eq_map, List.map_cons,
    List.map_map]
  congr 1
  · simp [List.take_of_length_le]
  · refine List.map_congr_left fun k _ => ?_
    have hcount : names.length + 1 - (k + 1) = names.length - k := by omega
    simp [hcount, List.take_append_of_le_length (Nat.sub_le names.length k)]

theorem exists_ancestors_eq_cons (p : Path) : ∃ above, p.ancestors = p :: above := by
  unfold ancestors
  rw [List.range_succ_eq_map, List.map_cons, Nat.sub_zero, List.take_length]
  exact ⟨_, rfl⟩

theorem isPrefix_of_mem_ancestors {p q : Path} (h : q ∈ p.ancestors) :
    q.anchor = p.anchor ∧ q.names <+: p.names := by
  obtain ⟨k, _, rfl⟩ := List.mem_map.mp h
  exact ⟨rfl, List.take_prefix _ _⟩

end Path

namespace Node

/-- The nearest directory at or above `start` that has a directory of a name. -/
structure IsNearest (top : Node) (name : Text) (start root : List Text) : Prop where
  above : root <+: start
  has : top.IsDirAt (root ++ [name])
  /-- Any other one is further up. -/
  isPrefix : ∀ names, names <+: start → top.IsDirAt (names ++ [name]) → names <+: root

variable {top : Node} {name n : Text} {start root : List Text}

/-- There are only finitely many directories above one, so that the nearest one can be found. -/
theorem isNearest_iff :
    top.IsNearest name start root ↔ root <+: start ∧ top.IsDirAt (root ++ [name]) ∧
      ∀ names ∈ start.inits, top.IsDirAt (names ++ [name]) → names <+: root :=
  ⟨fun h => ⟨h.above, h.has, fun names hnames => h.isPrefix names ((List.mem_inits _ _).mp hnames)⟩,
    fun ⟨habove, hhas, hrest⟩ =>
      ⟨habove, hhas, fun names hnames => hrest names ((List.mem_inits _ _).mpr hnames)⟩⟩

instance : Decidable (top.IsNearest name start root) := decidable_of_iff _ isNearest_iff.symm

theorem IsNearest.self (h : top.IsDirAt (start ++ [name])) : top.IsNearest name start start :=
  ⟨List.prefix_rfl, h, fun _ hnames _ => hnames⟩

/-- Where a directory has none itself, the nearest one is that for its parent. -/
theorem IsNearest.concat (h : top.IsNearest name start root)
    (hnone : ¬ top.IsDirAt (start ++ [n] ++ [name])) :
    top.IsNearest name (start ++ [n]) root := by
  refine ⟨h.above.trans (List.prefix_append _ _), h.has, fun names hnames hhas => ?_⟩
  rcases List.prefix_concat_iff.mp hnames with rfl | hnames
  · exact absurd hhas hnone
  · exact h.isPrefix names hnames hhas

/-- There is no other nearest one. -/
theorem IsNearest.unique {root' : List Text} (h : top.IsNearest name start root)
    (h' : top.IsNearest name start root') : root = root' :=
  have hle := h'.isPrefix root h.above h.has
  have hge := h.isPrefix root' h'.above h'.has
  hle.eq_of_length (Nat.le_antisymm hle.length_le hge.length_le)

end Node

namespace Location

open FileTree

variable {files : FileTree} {libraryDir entryFile : Text} {start root : List Text} {origin : Path}

theorem within_eq (hlibrary : Path.isPlainName libraryDir = true)
    (hentry : Path.isPlainName entryFile = true) (root : List Text) :
    within ⟨.root, root⟩ libraryDir entryFile =
      ⟨⟨.root, root⟩, ⟨.root, root ++ [libraryDir]⟩, ⟨.root, root ++ [libraryDir, entryFile]⟩⟩ := by
  simp [within, Path.join_ofText hlibrary, Path.join_ofText hentry, Path.child]

/-- What the search comes to where a library is, if its module is looked for. -/
def settled (files : FileTree) (libraryDir entryFile : Text) (origin : Path) (root : List Text) :
    Except PathFault (Option Location × Notice) :=
  match files.hindrance? (root ++ [libraryDir]) entryFile with
  | some fault => .error fault
  | none =>
    if files.top.IsFileAt (root ++ [libraryDir, entryFile]) then
      .ok (some (within ⟨.root, root⟩ libraryDir entryFile), .libraryFound origin ⟨.root, root⟩)
    else .ok (none, .entryMissing ⟨.root, root ++ [libraryDir]⟩ entryFile)

/-! ## One directory -/

section

variable (hproper : files.top.isProper = true)
  (hlibrary : Path.isPlainName libraryDir = true) (hlibraryUp : libraryDir ≠ Path.parentName)
  (hentry : Path.isPlainName entryFile = true) (hentryUp : entryFile ≠ Path.parentName)

include hproper hlibrary hlibraryUp hentry

/-- Whether a directory has the library is seen, unless something hinders that. -/
theorem seeDir_within (hroot : files.top.IsDirAt root) :
    files.seeDir (within ⟨.root, root⟩ libraryDir entryFile).libraryDir =
      match files.hindrance? root libraryDir with
      | some fault => .error fault
      | none => .ok (files.top.IsDirAt (root ++ [libraryDir])) := by
  rw [within_eq hlibrary hentry, seeDir, look_entry hproper hroot hlibraryUp]
  cases files.hindrance? root libraryDir with
  | some fault => rfl
  | none =>
    refine congrArg Except.ok (Bool.eq_iff_iff.mpr ?_)
    rw [decide_eq_true_iff]
    exact Option.any_eq_true _ _

/-- A hindrance in the first directory stops the search. -/
theorem search_of_hindrance (hroot : files.top.IsDirAt root) {fault : PathFault}
    (h : files.hindrance? root libraryDir = some fault) (above : List Path) :
    search files libraryDir entryFile origin (⟨.root, root⟩ :: above) = .error fault := by
  have hsee := seeDir_within hproper hlibrary hlibraryUp hentry hroot
  rw [h] at hsee
  rw [search, hsee]

/-- A directory that does not have the library is passed over. -/
theorem search_of_not_isDirAt (hroot : files.top.IsDirAt root)
    (hfree : files.hindrance? root libraryDir = none)
    (hhas : ¬ files.top.IsDirAt (root ++ [libraryDir])) (above : List Path) :
    search files libraryDir entryFile origin (⟨.root, root⟩ :: above) =
      search files libraryDir entryFile origin above := by
  have hsee := seeDir_within hproper hlibrary hlibraryUp hentry hroot
  rw [hfree] at hsee
  rw [search, hsee, decide_eq_false hhas]

include hentryUp

/-- A directory that has the library decides. -/
theorem search_of_isDirAt (hroot : files.top.IsDirAt root)
    (hfree : files.hindrance? root libraryDir = none)
    (hhas : files.top.IsDirAt (root ++ [libraryDir])) (above : List Path) :
    search files libraryDir entryFile origin (⟨.root, root⟩ :: above) =
      settled files libraryDir entryFile origin root := by
  have hsee := seeDir_within hproper hlibrary hlibraryUp hentry hroot
  have hmodule := look_entry hproper hhas hentryUp
  have hnames : root ++ [libraryDir] ++ [entryFile] = root ++ [libraryDir, entryFile] := by simp
  rw [hfree] at hsee
  rw [hnames] at hmodule
  rw [search, settled, hsee, decide_eq_true hhas]
  dsimp only
  rw [seeFile, within_eq hlibrary hentry, hmodule]
  cases files.hindrance? (root ++ [libraryDir]) entryFile with
  | some fault => rfl
  | none =>
    by_cases hfile : files.top.IsFileAt (root ++ [libraryDir, entryFile])
    · have hany := (Option.any_eq_true _ _).mpr hfile
      simp [Except.map, hany, hfile]
    · have hany := Bool.eq_false_iff.mpr fun h => hfile ((Option.any_eq_true _ _).mp h)
      simp [Except.map, hany, hfile]

/-! ## All directories from the start upwards -/

/-- The search comes to what it comes to in the nearest directory that has the library, if there is
one, unless something hinders the look-up in the starting directory: then nothing hinders it further
up. -/
theorem search_cases (hstart : files.top.IsDirAt start)
    (hfree : files.hindrance? start libraryDir = none) (origin : Path) :
    (∀ names, names <+: start → ¬ files.top.IsDirAt (names ++ [libraryDir])) ∧
        search files libraryDir entryFile origin (Path.ancestors ⟨.root, start⟩) =
          .ok (none, .libraryNotFound origin libraryDir) ∨
      ∃ root, files.top.IsNearest libraryDir start root ∧
        search files libraryDir entryFile origin (Path.ancestors ⟨.root, start⟩) =
          settled files libraryDir entryFile origin root := by
  induction start using List.reverseRecOn with
  | nil =>
    rw [Path.ancestors_nil]
    by_cases hhas : files.top.IsDirAt [libraryDir]
    · exact .inr ⟨[], .self hhas,
        search_of_isDirAt hproper hlibrary hlibraryUp hentry hentryUp hstart hfree hhas []⟩
    · refine .inl ⟨fun names hnames => ?_, ?_⟩
      · obtain rfl := List.prefix_nil.mp hnames
        exact hhas
      · rw [search_of_not_isDirAt hproper hlibrary hlibraryUp hentry hstart hfree hhas, search]
  | append_singleton start n ih =>
    rw [Path.ancestors_concat]
    by_cases hhas : files.top.IsDirAt (start ++ [n] ++ [libraryDir])
    · exact .inr ⟨_, .self hhas,
        search_of_isDirAt hproper hlibrary hlibraryUp hentry hentryUp hstart hfree hhas _⟩
    · rw [search_of_not_isDirAt hproper hlibrary hlibraryUp hentry hstart hfree hhas]
      have habove : start <+: start ++ [n] := List.prefix_append _ _
      rcases ih (hstart.of_isPrefix habove) (hindrance?_of_isPrefix hstart habove hfree) with
        ⟨hnone, hsearch⟩ | ⟨root, hnearest, hsearch⟩
      · refine .inl ⟨fun names hnames => ?_, hsearch⟩
        rcases List.prefix_concat_iff.mp hnames with rfl | hnames
        · exact hhas
        · exact hnone names hnames
      · exact .inr ⟨root, hnearest.concat hhas, hsearch⟩

end

/-! ## The outcome -/

theorem settled_eq_error_iff {fault : PathFault} :
    settled files libraryDir entryFile origin root = .error fault ↔
      files.hindrance? (root ++ [libraryDir]) entryFile = some fault := by
  unfold settled
  split
  · rename_i hhindered
    simp [hhindered]
  · rename_i hfree
    split <;> simp [hfree]

theorem settled_eq_ok_iff {location : Location} :
    (∃ notice, settled files libraryDir entryFile origin root = .ok (some location, notice)) ↔
      files.hindrance? (root ++ [libraryDir]) entryFile = none ∧
        files.top.IsFileAt (root ++ [libraryDir, entryFile]) ∧
        location = within ⟨.root, root⟩ libraryDir entryFile := by
  unfold settled
  split
  · rename_i hhindered
    simp [hhindered]
  · rename_i hfree
    split
    · rename_i hfile
      simp [hfree, hfile, eq_comm]
    · rename_i hfile
      simp [hfile]

/-- The location of a library is that of the nearest one, if its module is there; a library further
up is never used.  The search fails only where something hinders a look-up: that of the library in
the starting directory, whose path is the longest one, or that of the module in the nearest
library. -/
theorem above_finds_nearest (hproper : files.top.isProper = true)
    (hlibrary : Path.isPlainName libraryDir = true) (hlibraryUp : libraryDir ≠ Path.parentName)
    (hentry : Path.isPlainName entryFile = true) (hentryUp : entryFile ≠ Path.parentName)
    (hstart : files.top.IsDirAt start) :
    (∀ fault, above files libraryDir entryFile ⟨.root, start⟩ = .error fault ↔
      files.hindrance? start libraryDir = some fault ∨
        files.hindrance? start libraryDir = none ∧
          ∃ root, files.top.IsNearest libraryDir start root ∧
            files.hindrance? (root ++ [libraryDir]) entryFile = some fault) ∧
    ∀ location, (∃ notice, above files libraryDir entryFile ⟨.root, start⟩ =
        .ok (some location, notice)) ↔
      files.hindrance? start libraryDir = none ∧
        ∃ root, files.top.IsNearest libraryDir start root ∧
          files.hindrance? (root ++ [libraryDir]) entryFile = none ∧
          files.top.IsFileAt (root ++ [libraryDir, entryFile]) ∧
          location = within ⟨.root, root⟩ libraryDir entryFile := by
  unfold above
  cases hfree : files.hindrance? start libraryDir with
  | some hindrance =>
    obtain ⟨further, hancestors⟩ := Path.exists_ancestors_eq_cons ⟨.root, start⟩
    rw [hancestors, search_of_hindrance hproper hlibrary hlibraryUp hentry hstart hfree]
    simp
  | none =>
    rcases search_cases hproper hlibrary hlibraryUp hentry hentryUp hstart hfree ⟨.root, start⟩ with
      ⟨hnone, hsearch⟩ | ⟨root, hnearest, hsearch⟩
    · have hnot : ∀ root, ¬ files.top.IsNearest libraryDir start root := fun root h =>
        hnone root h.above h.has
      simp [hsearch, hnot]
    · have hunique : ∀ other, files.top.IsNearest libraryDir start other ↔ other = root :=
        fun other => ⟨fun h => h.unique hnearest, fun h => h ▸ hnearest⟩
      simp [hsearch, hunique, settled_eq_error_iff, settled_eq_ok_iff]

/-- The nearest directory that has the library lacks its module, and the library at the top is not
used from there; it is used where it is the nearest one. -/
theorem above_finds_nearest_lacking :
    let files : FileTree :=
      { top := .dir [("cslib", .dir [("main.py", .file [])]), ("side", .dir []),
          ("outer", .dir [("cslib", .dir []), ("inner", .dir [("cslib", .file [])])])] }
    files.top.isProper = true ∧ files.top.IsDirAt ["outer", "inner"] ∧
      files.top.IsDirAt ["side"] ∧ files.top.IsFileAt ["cslib", "main.py"] ∧
      (∀ fault, above files "cslib" "main.py" ⟨.root, ["outer", "inner"]⟩ ≠ .error fault) ∧
      (∀ location notice, above files "cslib" "main.py" ⟨.root, ["outer", "inner"]⟩ ≠
        .ok (some location, notice)) ∧
      ∃ notice, above files "cslib" "main.py" ⟨.root, ["side"]⟩ =
        .ok (some ⟨.ofText "/", .ofText "/cslib", .ofText "/cslib/main.py"⟩, notice) := by
  intro files
  have hproper : files.top.isProper = true := by decide +kernel
  have hlibrary : Path.isPlainName "cslib" = true := by decide +kernel
  have hentry : Path.isPlainName "main.py" = true := by decide +kernel
  have hinner : files.top.IsDirAt ["outer", "inner"] := by decide +kernel
  have hside : files.top.IsDirAt ["side"] := by decide +kernel
  have houter : files.top.IsNearest "cslib" ["outer", "inner"] ["outer"] := by decide +kernel
  obtain ⟨hfails, hfinds⟩ :=
    above_finds_nearest hproper hlibrary (by decide) hentry (by decide) hinner
  obtain ⟨_, hfindsTop⟩ :=
    above_finds_nearest hproper hlibrary (by decide) hentry (by decide) hside
  refine ⟨hproper, hinner, hside, by decide +kernel, fun fault hfault => ?_, ?_, ?_⟩
  · rcases (hfails fault).mp hfault with hhindered | ⟨_, root, hnearest, hhindered⟩
    · have hfree : files.hindrance? ["outer", "inner"] "cslib" = none := by decide +kernel
      rw [hfree] at hhindered
      exact nomatch hhindered
    · obtain rfl := hnearest.unique houter
      have hfree :
          files.hindrance? ((["outer"] : List Text) ++ [("cslib" : Text)]) "main.py" = none := by
        decide +kernel
      rw [hfree] at hhindered
      exact nomatch hhindered
  · intro location notice hfound
    obtain ⟨_, root, hnearest, _, hfile, _⟩ := (hfinds location).mp ⟨notice, hfound⟩
    obtain rfl := hnearest.unique houter
    exact absurd hfile (by decide +kernel)
  · exact (hfindsTop _).mpr ⟨by decide +kernel, [], by decide +kernel, by decide +kernel,
      by decide +kernel, by decide +kernel⟩

/-- A library that is locked ends the search, whatever there is further up. -/
example :
    let files : FileTree :=
      { top := .dir [("cslib", .dir [("main.py", .file [])]),
          ("inner", .dir [("cslib", .locked true)])] }
    above files "cslib" "main.py" ⟨.root, ["inner"]⟩ = .error .denied := by decide +kernel

/-- In a directory so far down that no path can lead to the library's name in it, the library at the
top is not found.  Where the name is too long for any directory to have it, it is not found either
that there is no library. -/
theorem above_too_deep :
    let library := List.replicate 255 'n'
    let step := List.replicate 199 'd'
    let start := List.replicate 20 step
    let files : FileTree :=
      { top := .dir [(library, .dir [("main.py", .file [])]),
          (step, (List.replicate 19 step).foldr (fun n below => .dir [(n, below)]) (.dir []))] }
    files.top.isProper = true ∧ Path.isPlainName library = true ∧ library ≠ Path.parentName ∧
      files.top.IsDirAt start ∧ files.top.IsNearest library start [] ∧
      files.top.IsFileAt [library, "main.py"] ∧
      above files library "main.py" ⟨.root, start⟩ = .error .tooLong ∧
      let longer := List.replicate 300 'n'
      Path.isPlainName longer = true ∧ longer ≠ Path.parentName ∧
        ¬ files.top.IsDirAt [longer] ∧
        above files longer "main.py" ⟨.root, []⟩ = .error .tooLong := by
  decide +kernel

end Location

end Signpost
