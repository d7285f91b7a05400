import Mathlib.Algebra.GroupWithZero.Nat
import Signpost.FileTree
import Signpost.Proofs.Outcome
import Signpost.Proofs.Path
import Signpost.Proofs.Table
set_option autoImplicit false

/-!
# What stands in a tree

Names lead down a tree, from a directory to its entries (`Node.at?`).  Looking up an entry of a
directory of the tree by its path from the root gives what the tree has there, unless something
hinders the look-up (`FileTree.look_entry`): the path or the name is too long, or the directory is
locked.  The longest path decides: where nothing hinders the look-up of an entry of a directory,
nothing hinders that of an entry of the same name above it (`hindrance?_of_isPrefix`).
-/

namespace Signpost

open Text

theorem Text.Utf8.encode_append (s t : Text) : encode (s ++ t) = encode s ++ encode t :=
  List.flatMap_append

namespace FileTree

/-- Whether a directory may have an entry of a name. -/
def isEntryName (n : Text) : Bool :=
  Path.isPlainName n && n != Path.parentName && !n.any (·.toNat == 0) &&
    byteLength n ≤ maxNameBytes

theorem isEntryName_iff {n : Text} :
    isEntryName n = true ↔
      Path.isPlainName n = true ∧ n ≠ Path.parentName ∧ n.any (·.toNat == 0) = false ∧
        byteLength n ≤ maxNameBytes := by
  simp [isEntryName, and_assoc]

end FileTree

namespace Node

open FileTree

/-- What stands at some names below a node, taken one after the other. -/
def at? : Node → List Text → Option Node
  | node, [] => some node
  | node, name :: names => (node.child? name).bind fun below => below.at? names

/-- A directory stands at some names. -/
def IsDirAt (top : Node) (names : List Text) : Prop :=
  ∃ node, top.at? names = some node ∧ node.isDir = true

/-- A file stands at some names. -/
def IsFileAt (top : Node) (names : List Text) : Prop :=
  ∃ node, top.at? names = some node ∧ node.isFile = true

instance (top : Node) (names : List Text) : Decidable (top.IsDirAt names) :=
  decidable_of_iff _ (Option.any_eq_true isDir (top.at? names))

instance (top : Node) (names : List Text) : Decidable (top.IsFileAt names) :=
  decidable_of_iff _ (Option.any_eq_true isFile (top.at? names))

mutual

/-- Whether every entry of every directory in a tree has a name that it may have. -/
def isProper : Node → Bool
  | .file _ => true
  | .dir entries => areProper entries
  | .locked _ => true

/-- Whether entries have names that they may have, and so has everything below them. -/
def areProper : List (Text × Node) → Bool
  | [] => true
  | (n, node) :: rest => isEntryName n && isProper node && areProper rest

end

theorem areProper_iff {entries : List (Text × Node)} :
    areProper entries = true ↔ ∀ e ∈ entries, isEntryName e.1 = true ∧ isProper e.2 = true := by
  induction entries with
  | nil => simp [areProper]
  | cons e rest ih => simp [areProper, ih, and_assoc]

/-! ## Going down -/

variable {node below : Node} {names : List Text} {n : Text}

@[simp] theorem at?_nil (node : Node) : node.at? [] = some node := rfl

theorem at?_cons (node : Node) (n : Text) (names : List Text) :
    node.at? (n :: names) = (node.child? n).bind fun below => below.at? names := rfl

theorem at?_append (node : Node) (names more : List Text) :
    node.at? (names ++ more) = (node.at? names).bind fun below => below.at? more := by
  induction names generalizing node with
  | nil => rfl
  | cons n names ih =>
    rw [List.cons_append, at?_cons, at?_cons]
    cases node.child? n with
    | none => rfl
    | some next => exact ih next

theorem at?_concat (node : Node) (names : List Text) (n : Text) :
    node.at? (names ++ [n]) = (node.at? names).bind fun below => below.child? n := by
  rw [at?_append]
  congr 1
  funext below
  rw [at?_cons]
  cases below.child? n <;> rfl

/-- Only directories have entries. -/
theorem exists_dir_of_child? (h : node.child? n = some below) :
    ∃ entries, node = .dir entries ∧ Table.get? entries n = some below := by
  cases node with
  | file bytes => exact nomatch h
  | locked isDirectory => exact nomatch h
  | dir entries => exact ⟨entries, rfl, h⟩

/-- Above anything there are directories only, and none of them is locked. -/
theorem exists_dir_of_isPrefix {above : List Text} (h : node.at? names = some below)
    (habove : above <+: names) (hne : above ≠ names) :
    ∃ entries, node.at? above = some (.dir entries) := by
  obtain ⟨more, rfl⟩ := habove
  rw [at?_append] at h
  obtain ⟨middle, hmiddle, hmore⟩ := Option.bind_eq_some_iff.mp h
  cases more with
  | nil => simp at hne
  | cons n more =>
    rw [at?_cons] at hmore
    obtain ⟨next, hnext, _⟩ := Option.bind_eq_some_iff.mp hmore
    obtain ⟨entries, rfl, _⟩ := exists_dir_of_child? hnext
    exact ⟨entries, hmiddle⟩

theorem IsDirAt.of_isPrefix {above : List Text} (h : node.IsDirAt names)
    (habove : above <+: names) : node.IsDirAt above := by
  by_cases hsame : above = names
  · rwa [hsame]
  · obtain ⟨below, hbelow, _⟩ := h
    obtain ⟨entries, hentries⟩ := exists_dir_of_isPrefix hbelow habove hsame
    exact ⟨_, hentries, rfl⟩

/-! ## Names that may be -/

theorem isProper_of_child? (h : node.isProper = true) (hbelow : node.child? n = some below) :
    isEntryName n = true ∧ below.isProper = true := by
  obtain ⟨entries, rfl, hget⟩ := exists_dir_of_child? hbelow
  rw [isProper, areProper_iff] at h
  exact h _ (Table.mem_of_get?_eq_some hget)

theorem isProper_of_at? (h : node.isProper = true) (hbelow : node.at? names = some below) :
    (∀ n ∈ names, isEntryName n = true) ∧ below.isProper = true := by
  induction names generalizing node with
  | nil =>
    obtain rfl := Option.some.inj hbelow
    exact ⟨by simp, h⟩
  | cons n names ih =>
    rw [at?_cons] at hbelow
    obtain ⟨next, hnext, hbelow⟩ := Option.bind_eq_some_iff.mp hbelow
    obtain ⟨hname, hproper⟩ := isProper_of_child? h hnext
    obtain ⟨hnames, hlast⟩ := ih hproper hbelow
    exact ⟨List.forall_mem_cons.mpr ⟨hname, hnames⟩, hlast⟩

end Node

namespace FileTree

open Node

variable {files : FileTree} {names : List Text} {n : Text}

/-! ## Looking up -/

theorem walk_dir_cons {entries : List (Text × Node)} (hn : n ≠ Path.parentName)
    (hlength : byteLength n ≤ maxNameBytes) (above : List Node) (names : List Text) :
    walk (.dir entries) above (n :: names) =
      match Table.get? entries n with
      | none => .error .missing
      | some node => walk node (.dir entries :: above) names := by
  cases hget : Table.get? entries n <;> simp [walk, hn, Nat.not_lt.mpr hlength, hget]

/-- A name leads on, from a directory with the nodes above it: `..` goes back up, or stays at the
top, and any other name goes down to an entry. -/
inductive GoesTo (n : Text) : Node → List Node → Node → List Node → Prop
  | stay {entries : List (Text × Node)} (hn : n = Path.parentName) :
      GoesTo n (.dir entries) [] (.dir entries) []
  | back {entries : List (Text × Node)} {up : Node} {above : List Node} (hn : n = Path.parentName) :
      GoesTo n (.dir entries) (up :: above) up above
  | down {entries : List (Text × Node)} {next : Node} {above : List Node} (hn : n ≠ Path.parentName)
      (hlength : byteLength n ≤ maxNameBytes) (hget : Table.get? entries n = some next) :
      GoesTo n (.dir entries) above next (.dir entries :: above)

theorem GoesTo.walk_eq {here next : Node} {above passed : List Node}
    (h : GoesTo n here above next passed) (names : List Text) :
    walk here above (n :: names) = walk next passed names := by
  cases h with
  | stay hn => simp [walk, hn]
  | back hn => simp [walk, hn]
  | down hn hlength hget => rw [walk_dir_cons hn hlength, hget]

/-- A look-up that succeeds goes on from every name. -/
theorem exists_goesTo {here node : Node} {above : List Node}
    (h : walk here above (n :: names) = .ok node) :
    ∃ next passed, GoesTo n here above next passed ∧ walk next passed names = .ok node := by
  suffices hgo : ∃ next passed, GoesTo n here above next passed by
    obtain ⟨next, passed, hgo⟩ := hgo
    exact ⟨next, passed, hgo, by rwa [hgo.walk_eq] at h⟩
  cases here with
  | file bytes => cases h
  | locked isDirectory => cases h
  | dir entries =>
    by_cases hup : n = Path.parentName
    · cases above with
      | nil => exact ⟨_, _, .stay hup⟩
      | cons up above => exact ⟨_, _, .back hup⟩
    · have hlength : byteLength n ≤ maxNameBytes := by
        by_contra hlong
        simp [walk, hup, Nat.not_le.mp hlong] at h
      rw [walk_dir_cons hup hlength] at h
      cases hget : Table.get? entries n with
      | none => simp [hget] at h
      | some next => exact ⟨_, _, .down hup hlength hget⟩

/-- Short names lead to what stands there. -/
theorem exists_walk_append_of_short {here below : Node} (h : here.at? names = some below)
    (hshort : ∀ m ∈ names, m ≠ Path.parentName ∧ byteLength m ≤ maxNameBytes) (above : List Node)
    (more : List Text) :
    ∃ passed, walk here above (names ++ more) = walk below passed more := by
  induction names generalizing here above with
  | nil =>
    obtain rfl := Option.some.inj h
    exact ⟨above, rfl⟩
  | cons n names ih =>
    rw [at?_cons] at h
    obtain ⟨next, hnext, hbelow⟩ := Option.bind_eq_some_iff.mp h
    obtain ⟨⟨hn, hlength⟩, hrest⟩ := List.forall_mem_cons.mp hshort
    obtain ⟨entries, rfl, hget⟩ := exists_dir_of_child? hnext
    rw [List.cons_append, walk_dir_cons hn hlength, hget]
    exact ih hbelow hrest _

/-- Names of the tree lead to what stands there. -/
theorem exists_walk_append {here below : Node} (hproper : here.isProper = true)
    (h : here.at? names = some below) (above : List Node) (more : List Text) :
    ∃ passed, walk here above (names ++ more) = walk below passed more := by
  refine exists_walk_append_of_short h (fun m hm => ?_) above more
  obtain ⟨_, hup, _, hlength⟩ := isEntryName_iff.mp ((isProper_of_at? hproper h).1 m hm)
  exact ⟨hup, hlength⟩

/-- The names of a directory of the tree can be used, and none of them is too long. -/
theorem usable_of_at? (hproper : files.top.isProper = true) {node : Node}
    (h : files.top.at? names = some node) :
    ∀ m ∈ names, m.any (·.toNat == 0) = false ∧ byteLength m ≤ maxNameBytes := by
  intro m hm
  obtain ⟨_, _, hnull, hlength⟩ := isEntryName_iff.mp ((isProper_of_at? hproper h).1 m hm)
  exact ⟨hnull, hlength⟩

theorem isUsable_entry (h : ∀ m ∈ names, m.any (·.toNat == 0) = false) :
    (⟨.root, names ++ [n]⟩ : Path).isUsable = !n.any (·.toNat == 0) := by
  have hnames : (names.all fun m => !m.any (·.toNat == 0)) = true :=
    List.all_eq_true.mpr fun m hm => by rw [h m hm, Bool.not_false]
  rw [Path.isUsable, List.all_append, hnames, Bool.true_and, List.all_cons, List.all_nil,
    Bool.and_true]

/-- What is seen at a path is what is there. -/
theorem eq_isDir_of_seeDir {p : Path} {isDir : Bool} (h : files.seeDir p = .ok isDir) :
    isDir = files.isDir p := by
  obtain ⟨found, hlook, rfl⟩ := map_eq_ok_iff.mp h
  unfold look at hlook
  unfold FileTree.isDir
  split at hlook
  · rename_i node hnode
    rw [hnode, ← Except.ok.inj hlook]
    rfl
  · exact nomatch hlook
  · exact nomatch hlook
  · rename_i hnone
    rw [hnone, ← Except.ok.inj hlook]
    rfl

/-- What keeps an entry of a directory from being looked up, if anything does: its path is too long,
the directory is locked, or its name is too long. -/
def hindrance? (files : FileTree) (names : List Text) (n : Text) : Option PathFault :=
  if n.any (·.toNat == 0) then none
  else if maxPathBytes < byteLength (Path.text ⟨.root, names ++ [n]⟩) then some .tooLong
  else if (files.top.at? names).any Node.isLocked then some .denied
  else if maxNameBytes < byteLength n then some .tooLong
  else none

/-- A proper tree has no entry with a null character in its name. -/
theorem at?_concat_of_any_null (hproper : files.top.isProper = true)
    (hnull : n.any (·.toNat == 0) = true) : files.top.at? (names ++ [n]) = none := by
  rw [Option.eq_none_iff_forall_not_mem]
  intro node hnode
  have hentry := (isProper_of_at? hproper hnode).1 n (by simp)
  obtain ⟨_, _, hentry, _⟩ := isEntryName_iff.mp hentry
  rw [hnull] at hentry
  exact nomatch hentry

/-- From a directory that is not locked, a short name leads to the entry. -/
theorem look_of_walk {p : Path} {entries : List (Text × Node)} {above : List Node}
    (h : files.find p = walk (.dir entries) above [n])
    (hn : n ≠ Path.parentName) (hlength : byteLength n ≤ maxNameBytes) :
    files.look p = .ok (Table.get? entries n) := by
  rw [walk_dir_cons hn hlength] at h
  rw [look, h]
  cases Table.get? entries n <;> rfl

/-- An entry of a directory is found by its path, unless something hinders that. -/
theorem look_entry (hproper : files.top.isProper = true) (hdir : files.top.IsDirAt names)
    (hn : n ≠ Path.parentName) :
    files.look ⟨.root, names ++ [n]⟩ =
      match files.hindrance? names n with
      | some fault => .error fault
      | none => .ok (files.top.at? (names ++ [n])) := by
  obtain ⟨node, hnode, hisDir⟩ := hdir
  have hnames := usable_of_at? hproper hnode
  have husable := isUsable_entry (n := n) fun m hm => (hnames m hm).1
  cases hnull : n.any (·.toNat == 0) with
  | true =>
    rw [hnull] at husable
    simp [hindrance?, look, find, husable, hnull, at?_concat_of_any_null hproper hnull]
  | false =>
    rw [hnull] at husable
    by_cases hpath : maxPathBytes < byteLength (Path.text ⟨.root, names ++ [n]⟩)
    · simp [hindrance?, look, find, husable, hnull, hpath]
    · obtain ⟨passed, hwalk⟩ := exists_walk_append hproper hnode [] [n]
      have hjoin : (Path.join files.working ⟨.root, names ++ [n]⟩).names = names ++ [n] := rfl
      have hfind : files.find ⟨.root, names ++ [n]⟩ = walk node passed [n] := by
        simp [find, husable, hpath, hjoin, hwalk]
      cases node with
      | file bytes => exact nomatch hisDir
      | locked isDirectory =>
        obtain rfl : isDirectory = true := hisDir
        simp [hindrance?, look, hfind, walk, hnull, hpath, hnode, Node.isLocked]
      | dir entries =>
        have hat : files.top.at? (names ++ [n]) = Table.get? entries n := by
          rw [Node.at?_concat, hnode]
          rfl
        by_cases hlength : maxNameBytes < byteLength n
        · simp [hindrance?, look, hfind, walk, hn, hnull, hpath, hnode, Node.isLocked, hlength]
        · rw [look_of_walk hfind hn (Nat.not_lt.mp hlength), ← hat]
          simp [hindrance?, hnull, hpath, hnode, Node.isLocked, hlength]

/-- Whatever `..` leads to is a directory. -/
theorem exists_dir_of_walk_parentName {here node : Node} {above : List Node}
    (habove : ∀ up ∈ above, ∃ entries, up = .dir entries)
    (h : walk here above (names ++ [Path.parentName]) = .ok node) :
    ∃ entries, node = .dir entries := by
  induction names generalizing here above with
  | nil =>
    obtain ⟨next, passed, hgo, hwalk⟩ := exists_goesTo h
    obtain rfl := Except.ok.inj hwalk
    cases hgo with
    | stay => exact ⟨_, rfl⟩
    | back => exact habove next List.mem_cons_self
    | down hn => exact absurd rfl hn
  | cons n names ih =>
    obtain ⟨next, passed, hgo, hwalk⟩ := exists_goesTo h
    cases hgo with
    | stay => exact ih habove hwalk
    | back => exact ih (List.forall_mem_cons.mp habove).2 hwalk
    | down => exact ih (List.forall_mem_cons.mpr ⟨⟨_, rfl⟩, habove⟩) hwalk

theorem seeFile_parentName_ne_true (p : Path) :
    files.seeFile (p.child Path.parentName) ≠ .ok true := by
  intro h
  obtain ⟨found, hlook, hfile⟩ := map_eq_ok_iff.mp h
  obtain ⟨node, rfl, hisFile⟩ := (Option.any_eq_true _ _).mp hfile
  have hfind : files.find (p.child Path.parentName) = .ok node := by
    unfold look at hlook
    split at hlook <;> simp_all
  unfold find at hfind
  split at hfind
  · exact nomatch hfind
  split at hfind
  · exact nomatch hfind
  rw [Path.names_join_child] at hfind
  obtain ⟨entries, rfl⟩ := exists_dir_of_walk_parentName (by simp) hfind
  exact nomatch hisFile

/-! ## Lengths -/

theorem byteLength_append (s t : Text) : byteLength (s ++ t) = byteLength s + byteLength t := by
  rw [byteLength, Utf8.encode_append, List.length_append, byteLength, byteLength]

theorem byteLength_joinWith {names : List Text} (h : names ≠ []) :
    byteLength (joinWith ['/'] names) + 1 = (names.map fun n => byteLength n + 1).sum := by
  have hslash : byteLength ['/'] = 1 := by decide
  induction names with
  | nil => exact absurd rfl h
  | cons n names ih =>
    cases names with
    | nil => simp [joinWith]
    | cons m names =>
      have hjoin : joinWith ['/'] (n :: m :: names) = n ++ ['/'] ++ joinWith ['/'] (m :: names) :=
        rfl
      rw [hjoin, byteLength_append, byteLength_append, hslash, List.map_cons, List.sum_cons,
        ← ih (by simp)]
      omega

/-- Every name takes one byte more than its own. -/
theorem byteLength_text {names : List Text} (h : names ≠ []) :
    byteLength (Path.text ⟨.root, names⟩) = (names.map fun n => byteLength n + 1).sum := by
  have htext : Path.text ⟨.root, names⟩ = ['/'] ++ joinWith ['/'] names := rfl
  have hslash : byteLength ['/'] = 1 := by decide
  rw [htext, byteLength_append, hslash, Nat.add_comm, byteLength_joinWith h]

theorem byteLength_text_le_of_isPrefix {above : List Text} (habove : above <+: names) (n : Text) :
    byteLength (Path.text ⟨.root, above ++ [n]⟩) ≤
      byteLength (Path.text ⟨.root, names ++ [n]⟩) := by
  obtain ⟨more, rfl⟩ := habove
  rw [byteLength_text (by simp), byteLength_text (by simp)]
  simp only [List.map_append, List.sum_append]
  omega

theorem hindrance?_eq_none_iff :
    files.hindrance? names n = none ↔
      n.any (·.toNat == 0) = true ∨
        byteLength (Path.text ⟨.root, names ++ [n]⟩) ≤ maxPathBytes ∧
          (files.top.at? names).any Node.isLocked = false ∧ byteLength n ≤ maxNameBytes := by
  unfold hindrance?
  split
  · rename_i hnull
    simp [hnull]
  · rename_i hnull
    split
    · rename_i hpath
      simp [hnull, Nat.not_le.mpr hpath]
    · rename_i hpath
      split
      · rename_i hlocked
        simp [hnull, hlocked]
      · rename_i hlocked
        split
        · rename_i hlength
          simp [hnull, Nat.not_le.mpr hlength]
        · rename_i hlength
          simp [hnull, hlocked, Nat.not_lt.mp hpath, Nat.not_lt.mp hlength]

/-- If nothing hinders the look-up of an entry, nothing hinders that of an entry of the same name
further up. -/
theorem hindrance?_of_isPrefix {above : List Text} (hdir : files.top.IsDirAt names)
    (habove : above <+: names) (h : files.hindrance? names n = none) :
    files.hindrance? above n = none := by
  by_cases hsame : above = names
  · rwa [hsame]
  · obtain ⟨node, hnode, _⟩ := hdir
    obtain ⟨entries, hentries⟩ := Node.exists_dir_of_isPrefix hnode habove hsame
    have hopen : (files.top.at? above).any Node.isLocked = false := by
      rw [hentries]
      rfl
    refine hindrance?_eq_none_iff.mpr ((hindrance?_eq_none_iff.mp h).imp_right ?_)
    rintro ⟨hpath, _, hlength⟩
    exact ⟨(byteLength_text_le_of_isPrefix habove n).trans hpath, hopen, hlength⟩

end FileTree

end Signpost
