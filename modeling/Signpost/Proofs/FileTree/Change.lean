import Signpost.Proofs.FileTree
import Signpost.Proofs.Outcome
set_option autoImplicit false

/-!
# Trees that change

What a change does to the files of a tree is said by the names that lead to them
(`Node.fileAt?`): a file that is written has the new bytes, and every other file has those it had
(`FileTree.fileAt?_write`); making directories changes no file at all (`FileTree.KeepsFiles`).

Changes are made at the place that a path stands for when every `..` in it is taken back with the
name before it, while looking a path up goes through the directories.  Where the look-up succeeds
both come to the same place (`FileTree.at?_of_find`), and where the last name of a path is missing
nothing stands there (`FileTree.at?_of_add`).  A file can be written where one is, and as a new entry
of a directory that is there (`FileTree.HasRoomFor.exists_write`).
-/

namespace Signpost

open Text

namespace Node

/-- The bytes of the file at some names below a node, if a file stands there. -/
def fileAt? (node : Node) (names : List Text) : Option (List UInt8) :=
  match node.at? names with
  | some (.file bytes) => some bytes
  | _ => none

variable {node : Node} {names : List Text} {bytes : List UInt8}

theorem fileAt?_of_at? (h : node.at? names = some (.file bytes)) :
    node.fileAt? names = some bytes := by
  rw [fileAt?, h]

theorem fileAt?_of_none (h : node.at? names = none) : node.fileAt? names = none := by
  rw [fileAt?, h]

theorem at?_of_fileAt? (h : node.fileAt? names = some bytes) :
    node.at? names = some (.file bytes) := by
  unfold fileAt? at h
  split at h
  · rename_i hat
    rw [hat, Option.some.inj h]
  · exact nomatch h

theorem fileAt?_cons (entries : List (Text × Node)) (n : Text) (names : List Text) :
    (Node.dir entries).fileAt? (n :: names) =
      (Table.get? entries n).bind fun below => below.fileAt? names := by
  rw [fileAt?, at?_cons]
  show _ = (Table.get? entries n).bind fun below => below.fileAt? names
  cases hget : Table.get? entries n with
  | none => simp [child?, hget]
  | some below => simp [child?, hget, fileAt?]

/-- Nothing stands below a file. -/
theorem at?_append_of_file (h : node.at? names = some (.file bytes)) {more : List Text}
    (hmore : more ≠ []) : node.at? (names ++ more) = none := by
  obtain ⟨n, more, rfl⟩ := List.exists_cons_of_ne_nil hmore
  rw [at?_append, h]
  rfl

/-- Nothing stands below what is not there. -/
theorem at?_append_of_none (h : node.at? names = none) (more : List Text) :
    node.at? (names ++ more) = none := by
  rw [at?_append, h]
  rfl

end Node

namespace FileTree

open Node

variable {files files' : FileTree} {top top' node : Node} {names : List Text} {p : Path}
  {bytes : List UInt8}

/-! ## Placing a node -/

/-- A node that is placed brings its own files, in place of those that stood there. -/
theorem fileAt?_place (h : place node top names = .ok top') (q : List Text) :
    top'.fileAt? q =
      if names <+: q then node.fileAt? (q.drop names.length) else top.fileAt? q := by
  induction names generalizing top top' q with
  | nil =>
    obtain rfl := Except.ok.inj h
    simp
  | cons n names ih =>
    cases top with
    | file bytes => exact nomatch h
    | locked isDirectory => exact nomatch h
    | dir entries =>
      obtain ⟨below, hbelow, htop⟩ := bind_eq_ok_iff.mp h
      obtain rfl := Except.ok.inj htop
      cases q with
      | nil => simp [fileAt?]
      | cons m q =>
        rw [fileAt?_cons, Table.get?_insert]
        by_cases hn : n = m
        · subst hn
          have hold : ((Table.get? entries n).getD (.dir [])).fileAt? q =
              (Node.dir entries).fileAt? (n :: q) := by
            rw [fileAt?_cons]
            cases Table.get? entries n with
            | some old => rfl
            | none => cases q <;> rfl
          simp [ih hbelow, hold]
        · rw [if_neg (by simpa using hn), ← fileAt?_cons, if_neg (by simp [hn])]

/-- A node can be placed if it can be placed from a node on the way. -/
theorem exists_place_append {below below' new : Node} {more : List Text}
    (h : top.at? names = some below) (hmore : place new below more = .ok below') :
    ∃ top', place new top (names ++ more) = .ok top' := by
  induction names generalizing top with
  | nil =>
    obtain rfl := Option.some.inj h
    exact ⟨below', hmore⟩
  | cons n names ih =>
    rw [at?_cons] at h
    obtain ⟨next, hnext, hbelow⟩ := Option.bind_eq_some_iff.mp h
    obtain ⟨entries, rfl, hget⟩ := exists_dir_of_child? hnext
    obtain ⟨placed, hplace⟩ := ih hbelow
    have hplace' :
        place new ((Table.get? entries n).getD (.dir [])) (names ++ more) = .ok placed := by
      rw [hget]
      exact hplace
    exact ⟨_, bind_eq_ok_iff.mpr ⟨placed, hplace', rfl⟩⟩

theorem exists_place (h : top.at? names = some node) (new : Node) :
    ∃ top', place new top names = .ok top' := by
  have hhere : place new node [] = .ok new := rfl
  have hplace := exists_place_append h hhere
  rwa [List.append_nil] at hplace

/-! ## Where a look-up comes to -/

/-- A look-up that has come down some names stands at a node, with the nodes above it on its way. -/
inductive Leads (top : Node) : List Text → Node → List Node → Prop
  | top : Leads top [] top []
  | down {names : List Text} {here next : Node} {above : List Node} {n : Text}
      (h : Leads top names here above) (hnext : here.child? n = some next) :
      Leads top (names ++ [n]) next (here :: above)

namespace Leads

variable {here : Node} {above : List Node} {done : List Text} {n : Text}

theorem at?_eq (h : Leads top names here above) : top.at? names = some here := by
  induction h with
  | top => rfl
  | down _ hnext ih => rw [at?_concat, ih, Option.bind_some, hnext]

theorem eq_top (h : Leads top names here []) : names = [] ∧ here = top := by
  cases h
  exact ⟨rfl, rfl⟩

theorem back {up : Node} (h : Leads top names here (up :: above)) :
    Leads top names.dropLast up above := by
  cases h with
  | down h _ => rwa [List.dropLast_concat]

/-- One name further: `..` takes the last name back, and any other name is one more. -/
theorem step {next : Node} {passed : List Node} (h : Leads top (Path.collapse done) here above)
    (hgo : GoesTo n here above next passed) : Leads top (Path.collapse (done ++ [n])) next passed := by
  rw [Path.collapse_concat]
  cases hgo with
  | stay hn =>
    obtain ⟨hnil, htop⟩ := h.eq_top
    rw [if_pos hn, hnil, htop]
    exact .top
  | back hn =>
    rw [if_pos hn]
    exact h.back
  | down hn _ hget =>
    rw [if_neg hn]
    exact h.down hget

/-- A look-up that succeeds stands where its names lead when each `..` takes one of them back, and
going further is going on from there. -/
theorem walk_eq (h : Leads top (Path.collapse done) here above)
    (hwalk : walk here above names = .ok node) :
    ∃ passed, Leads top (Path.collapse (done ++ names)) node passed ∧
      ∀ more, walk here above (names ++ more) = walk node passed more := by
  induction names generalizing done here above with
  | nil =>
    obtain rfl := Except.ok.inj hwalk
    exact ⟨above, by rwa [List.append_nil], fun _ => rfl⟩
  | cons n names ih =>
    obtain ⟨next, passed, hgo, hrest⟩ := exists_goesTo hwalk
    obtain ⟨passed', hleads, hmore⟩ := ih (h.step hgo) hrest
    refine ⟨passed', by rwa [List.append_assoc] at hleads, fun more => ?_⟩
    rw [List.cons_append, hgo.walk_eq, hmore]

end Leads

/-- A path that is missing, or that something stands at, was looked up. -/
theorem find_eq_walk_of_find
    (h : (∃ node, files.find p = .ok node) ∨ files.find p = .error .missing) :
    (p.isUsable = true ∧ byteLength p.text ≤ maxPathBytes) ∧
      files.find p = walk files.top [] (Path.join files.working p).names := by
  unfold find at h ⊢
  by_cases husable : p.isUsable = true
  · by_cases hlength : maxPathBytes < byteLength p.text
    · simp [husable, hlength] at h
    · simp [husable, hlength, Nat.not_lt.mp hlength]
  · simp [husable] at h

/-- What a look-up finds stands at the place that the path stands for. -/
theorem at?_of_find (h : files.find p = .ok node) :
    files.top.at? (files.resolve p).names = some node := by
  have hstart : Leads files.top (Path.collapse []) files.top [] := .top
  obtain ⟨_, hwalk⟩ := find_eq_walk_of_find (.inl ⟨_, h⟩)
  obtain ⟨passed, hleads, _⟩ := hstart.walk_eq (hwalk ▸ h)
  exact hleads.at?_eq

/-- A path that is looked up to its end, if the tree has what it names. -/
def IsInReach (p : Path) : Prop :=
  p.isUsable = true ∧ byteLength p.text ≤ maxPathBytes ∧
    ∀ n ∈ p.names, byteLength n ≤ maxNameBytes

/-- A path without detours finds what stands at its names. -/
theorem find_of_at? (hp : p.IsResolved) (hreach : IsInReach p)
    (h : files.top.at? p.names = some node) : files.find p = .ok node := by
  obtain ⟨husable, hlength, hnames⟩ := hreach
  have hshort : ∀ n ∈ p.names, n ≠ Path.parentName ∧ byteLength n ≤ maxNameBytes :=
    fun n hn => ⟨fun hup => hp.2 (hup ▸ hn), hnames n hn⟩
  obtain ⟨passed, hwalk⟩ := exists_walk_append_of_short h hshort [] []
  rw [List.append_nil] at hwalk
  simp [find, husable, Nat.not_lt.mpr hlength, hp.join_eq, hwalk, walk]

theorem byteLength_le_of_walk {here : Node} {above : List Node}
    (h : walk here above names = .ok node) {n : Text} (hn : n ∈ names) (hup : n ≠ Path.parentName) :
    byteLength n ≤ maxNameBytes := by
  induction names generalizing here above with
  | nil => cases hn
  | cons m names ih =>
    obtain ⟨next, passed, hgo, hrest⟩ := exists_goesTo h
    rcases List.mem_cons.mp hn with rfl | hlater
    · cases hgo with
      | stay hn => exact absurd hn hup
      | back hn => exact absurd hn hup
      | down _ hlength _ => exact hlength
    · exact ih hrest hlater

theorem isInReach_of_find (hp : p.IsResolved) (h : files.find p = .ok node) : IsInReach p := by
  obtain ⟨⟨husable, hlength⟩, hwalk⟩ := find_eq_walk_of_find (.inl ⟨_, h⟩)
  rw [h, hp.join_eq] at hwalk
  exact ⟨husable, hlength, fun n hn =>
    byteLength_le_of_walk hwalk.symm hn fun hup => hp.2 (hup ▸ hn)⟩

/-- A path that a file was found at finds whatever file stands there. -/
theorem find_of_fileAt? (hp : p.IsResolved) (h : files.find p = .ok node)
    (hfile : files'.top.fileAt? p.names = some bytes) : files'.find p = .ok (.file bytes) :=
  find_of_at? hp (isInReach_of_find hp h) (at?_of_fileAt? hfile)

/-! ## New entries -/

/-- A directory lacks an entry that is missing in it. -/
theorem lacks_of_walk {entries : List (Text × Node)} {above : List Node} {n : Text}
    (h : walk (.dir entries) above [n] = .error .missing) :
    n ≠ Path.parentName ∧ byteLength n ≤ maxNameBytes ∧ Table.get? entries n = none := by
  by_cases hup : n = Path.parentName
  · cases above <;> simp [walk, hup] at h
  · by_cases hlength : maxNameBytes < byteLength n
    · simp [walk, hup, hlength] at h
    · rw [walk_dir_cons hup (Nat.not_lt.mp hlength)] at h
      cases hget : Table.get? entries n with
      | none => exact ⟨hup, Nat.not_lt.mp hlength, rfl⟩
      | some below => simp [hget, walk] at h

/-- A path is looked up from the directory that its parent leads to, unless it is that directory. -/
theorem exists_walk_from_parent {entries : List (Text × Node)}
    (hparent : files.find p.parent = .ok (.dir entries)) (hself : files.find p ≠ .ok (.dir entries)) :
    ∃ n passed, p = p.parent.child n ∧
      walk files.top [] (Path.join files.working p).names = walk (.dir entries) passed [n] := by
  have hnames : p.names ≠ [] := fun hnil => by
    have htop : p.parent = p := by rw [Path.parent, hnil, List.dropLast_nil, ← hnil]
    rw [htop] at hparent
    exact hself hparent
  obtain ⟨n, hchild⟩ : ∃ n, p = p.parent.child n :=
    ⟨p.names.getLast hnames, by simp [Path.child, Path.parent, List.dropLast_append_getLast]⟩
  obtain ⟨_, habove⟩ := find_eq_walk_of_find (.inl ⟨_, hparent⟩)
  have hstart : Leads files.top (Path.collapse []) files.top [] := .top
  obtain ⟨passed, _, hmore⟩ := hstart.walk_eq (habove ▸ hparent)
  refine ⟨n, passed, hchild, ?_⟩
  rw [← hmore, ← Path.names_join_child, ← hchild]

/-- A new entry comes into a directory that is there and has no entry of its name. -/
theorem exists_entry_of_add (hmissing : files.find p = .error .missing)
    (h : files.add p node = .ok files') :
    ∃ q n entries, p = q.child n ∧ files.find q = .ok (.dir entries) ∧ n ≠ Path.parentName ∧
      byteLength n ≤ maxNameBytes ∧ Table.get? entries n = none := by
  unfold add at h
  split at h
  · rename_i entries hparent
    have hself : files.find p ≠ .ok (.dir entries) := by simp [hmissing]
    obtain ⟨n, passed, hchild, hlast⟩ := exists_walk_from_parent hparent hself
    obtain ⟨_, hwalk⟩ := find_eq_walk_of_find (.inr hmissing)
    rw [hmissing, hlast] at hwalk
    exact ⟨_, n, entries, hchild, hparent, lacks_of_walk hwalk.symm⟩
  · cases h
  · cases h
  · cases h

theorem at?_of_add (hmissing : files.find p = .error .missing) (h : files.add p node = .ok files') :
    files.top.at? (files.resolve p).names = none := by
  obtain ⟨q, n, entries, rfl, hdir, hup, _, hnone⟩ := exists_entry_of_add hmissing h
  rw [resolve, Path.resolve_child, if_neg hup]
  show files.top.at? ((files.resolve q).names ++ [n]) = none
  rw [at?_concat, at?_of_find hdir]
  exact hnone

theorem isInReach_of_add (hp : p.IsResolved) (hmissing : files.find p = .error .missing)
    (h : files.add p node = .ok files') : IsInReach p := by
  obtain ⟨⟨husable, hlength⟩, _⟩ := find_eq_walk_of_find (.inr hmissing)
  obtain ⟨q, n, entries, rfl, hdir, _, hn, _⟩ := exists_entry_of_add hmissing h
  have hq : q.IsResolved := ⟨hp.1, fun hmem => hp.2 (List.mem_append_left _ hmem)⟩
  obtain ⟨_, _, hnames⟩ := isInReach_of_find hq hdir
  refine ⟨husable, hlength, fun m hm => ?_⟩
  rcases List.mem_append.mp hm with hm | hm
  · exact hnames m hm
  · exact List.mem_singleton.mp hm ▸ hn

theorem placeAt_eq_ok_iff :
    files.placeAt p node = .ok files' ↔
      ∃ top', place node files.top (files.resolve p).names = .ok top' ∧
        { files with top := top' } = files' := map_eq_ok_iff

theorem placeAt_of_add (h : files.add p node = .ok files') : files.placeAt p node = .ok files' := by
  unfold add at h
  split at h
  · exact h
  · exact nomatch h
  · exact nomatch h
  · exact nomatch h

/-! ## Writing -/

/-- A file is written where a file stands, or as a new entry. -/
theorem write_cases (h : files.write p bytes = .ok files') :
    files.placeAt p (.file bytes) = .ok files' ∧
      ((∃ old, files.find p = .ok (.file old)) ∨
        files.find p = .error .missing ∧ files.add p (.file bytes) = .ok files') := by
  unfold write at h
  split at h
  · rename_i old hfile
    exact ⟨h, .inl ⟨old, hfile⟩⟩
  · exact nomatch h
  · exact nomatch h
  · rename_i hmissing
    exact ⟨placeAt_of_add h, .inr ⟨hmissing, h⟩⟩
  · exact nomatch h

/-- A file can be written again. -/
theorem exists_write {old : List UInt8} (h : files.find p = .ok (.file old))
    (bytes : List UInt8) : ∃ files', files.write p bytes = .ok files' := by
  obtain ⟨top', hplace⟩ := exists_place (at?_of_find h) (.file bytes)
  refine ⟨{ files with top := top' }, ?_⟩
  rw [write, h]
  exact placeAt_eq_ok_iff.mpr ⟨top', hplace, rfl⟩

theorem working_write (h : files.write p bytes = .ok files') : files'.working = files.working := by
  obtain ⟨top', _, rfl⟩ := placeAt_eq_ok_iff.mp (write_cases h).1
  rfl

/-- A file that is written has the new bytes, and no other file changes. -/
theorem fileAt?_write (h : files.write p bytes = .ok files') (q : List Text) :
    files'.top.fileAt? q =
      if q = (files.resolve p).names then some bytes else files.top.fileAt? q := by
  obtain ⟨hplaced, hbefore⟩ := write_cases h
  obtain ⟨top', hplace, rfl⟩ := placeAt_eq_ok_iff.mp hplaced
  have hempty : (∃ old, files.top.at? (files.resolve p).names = some (.file old)) ∨
      files.top.at? (files.resolve p).names = none :=
    hbefore.imp (fun ⟨old, hold⟩ => ⟨old, at?_of_find hold⟩) fun ⟨hmissing, hadd⟩ =>
      at?_of_add hmissing hadd
  rw [fileAt?_place hplace]
  by_cases hfront : (files.resolve p).names <+: q
  · obtain ⟨more, rfl⟩ := hfront
    rw [if_pos (List.prefix_append _ _), List.drop_left]
    cases more with
    | nil => simp [Node.fileAt?]
    | cons n more =>
      have hbelow : files.top.at? ((files.resolve p).names ++ n :: more) = none := by
        rcases hempty with ⟨old, hold⟩ | hnone
        · exact at?_append_of_file hold (by simp)
        · exact at?_append_of_none hnone _
      rw [if_neg (by simp), fileAt?_of_none hbelow]
      rfl
  · have hne : q ≠ (files.resolve p).names := fun heq => hfront (heq ▸ List.prefix_rfl)
    rw [if_neg hfront, if_neg hne]

/-- A file that has been written is found. -/
theorem find_write (hp : p.IsResolved) (h : files.write p bytes = .ok files') :
    files'.find p = .ok (.file bytes) := by
  have hreach : IsInReach p := by
    rcases (write_cases h).2 with ⟨old, hold⟩ | ⟨hmissing, hadd⟩
    · exact isInReach_of_find hp hold
    · exact isInReach_of_add hp hmissing hadd
  have hfile : files'.top.fileAt? p.names = some bytes := by
    rw [fileAt?_write h, resolve, (Path.isResolved_iff _).mp hp, if_pos rfl]
  exact find_of_at? hp hreach (at?_of_fileAt? hfile)

/-- Where a file can be written, reading it gives what stands there. -/
theorem toOption_readBytes_of_write (h : files.write p bytes = .ok files') :
    (files.readBytes p).toOption = files.top.fileAt? (files.resolve p).names := by
  rcases (write_cases h).2 with ⟨old, hold⟩ | ⟨hmissing, hadd⟩
  · rw [readBytes, hold, fileAt?_of_at? (at?_of_find hold)]
    rfl
  · rw [readBytes, hmissing, fileAt?_of_none (at?_of_add hmissing hadd)]
    rfl

/-- A path without detours that is short enough, in a directory that is there and not locked.  What
stands at the path, if anything does, is a file, and it is not locked either. -/
structure HasRoomFor (files : FileTree) (p : Path) : Prop where
  isResolved : p.IsResolved
  isInReach : IsInReach p
  parent : ∃ entries, files.find p.parent = .ok (.dir entries)
  file : ∀ node, files.find p = .ok node → ∃ bytes, node = .file bytes

/-- A file can be written as a new entry of a directory. -/
theorem exists_write_entry {entries : List (Text × Node)} {n : Text} (hchild : p = p.parent.child n)
    (hup : n ≠ Path.parentName) (hparent : files.find p.parent = .ok (.dir entries))
    (hmissing : files.find p = .error .missing) (bytes : List UInt8) :
    ∃ files', files.write p bytes = .ok files' := by
  have hentry : place (.file bytes) (.dir entries) [n] =
      .ok (.dir (Table.insert entries n (.file bytes))) := rfl
  obtain ⟨top', hplace⟩ := exists_place_append (at?_of_find hparent) hentry
  have hresolve := Path.resolve_child files.working p.parent n
  rw [if_neg hup, ← hchild] at hresolve
  have hnames : (files.resolve p).names = (files.resolve p.parent).names ++ [n] :=
    congrArg Path.names hresolve
  refine ⟨{ files with top := top' }, ?_⟩
  rw [write, hmissing]
  dsimp only
  rw [add, hparent]
  exact placeAt_eq_ok_iff.mpr ⟨top', by rw [hnames, hplace], rfl⟩

/-- A file can be written where there is room for it. -/
theorem HasRoomFor.exists_write (h : files.HasRoomFor p) (bytes : List UInt8) :
    ∃ files', files.write p bytes = .ok files' := by
  obtain ⟨entries, hparent⟩ := h.parent
  have hnot : files.find p ≠ .ok (.dir entries) := fun hdir => by
    obtain ⟨bytes, heq⟩ := h.file _ hdir
    cases heq
  obtain ⟨n, passed, hchild, hlast⟩ := exists_walk_from_parent hparent hnot
  obtain ⟨husable, hlength, hshort⟩ := h.isInReach
  have hn : n ∈ p.names := by
    rw [hchild]
    exact List.mem_concat_self
  have hup : n ≠ Path.parentName := fun heq => h.isResolved.2 (heq ▸ hn)
  have hfind : files.find p = walk (.dir entries) passed [n] := by
    rw [← hlast]
    simp [find, husable, Nat.not_lt.mpr hlength]
  rw [walk_dir_cons hup (hshort n hn)] at hfind
  cases hget : Table.get? entries n with
  | some below =>
    have hbelow : files.find p = .ok below := by rw [hfind, hget]; rfl
    obtain ⟨old, rfl⟩ := h.file _ hbelow
    exact FileTree.exists_write hbelow bytes
  | none =>
    have hmissing : files.find p = .error .missing := by rw [hfind, hget]
    exact exists_write_entry hchild hup hparent hmissing bytes

/-! ## Making directories -/

/-- A directory that is there is not made. -/
theorem makeDirs_of_isDir (h : files.isDir p = true) : files.makeDirs p = (files, none) := by
  have hmake : files.makeDir p = .error .alreadyThere := by
    unfold isDir at h
    split at h
    · rename_i node hnode
      rw [makeDir, hnode]
    · cases h
  have honce : files.makeDirOnce p = .ok files := by
    rw [makeDirOnce, hmake]
    exact if_pos h
  rw [makeDirs, makeDirsWithin.eq_def]
  dsimp only
  rw [honce]

/-- The second tree has the files of the first, seen from the same directory. -/
structure KeepsFiles (files files' : FileTree) : Prop where
  working_eq : files'.working = files.working
  fileAt?_eq : ∀ q, files'.top.fileAt? q = files.top.fileAt? q

namespace KeepsFiles

variable {later : FileTree}

theorem refl (files : FileTree) : KeepsFiles files files := ⟨rfl, fun _ => rfl⟩

theorem trans (h : KeepsFiles files files') (h' : KeepsFiles files' later) :
    KeepsFiles files later :=
  ⟨h'.working_eq.trans h.working_eq, fun q => (h'.fileAt?_eq q).trans (h.fileAt?_eq q)⟩

theorem makeDir (h : files.makeDir p = .ok files') : KeepsFiles files files' := by
  unfold FileTree.makeDir at h
  split at h
  · exact nomatch h
  · rename_i hmissing
    have hnone := at?_of_add hmissing h
    obtain ⟨top', hplace, rfl⟩ := placeAt_eq_ok_iff.mp (placeAt_of_add h)
    refine ⟨rfl, fun q => ?_⟩
    rw [fileAt?_place hplace]
    split
    · rename_i hfront
      obtain ⟨more, rfl⟩ := hfront
      rw [fileAt?_of_none (at?_append_of_none hnone more), List.drop_left]
      cases more <;> rfl
    · rfl
  · exact nomatch h

theorem makeDirOnce (h : files.makeDirOnce p = .ok files') : KeepsFiles files files' := by
  unfold FileTree.makeDirOnce at h
  split at h
  · rename_i hmade
    obtain rfl := Except.ok.inj h
    exact makeDir hmade
  · split at h
    · obtain rfl := Except.ok.inj h
      exact refl files
    · exact nomatch h

theorem makeDirsWithin (depth : Nat) (files : FileTree) (p : Path) :
    KeepsFiles files (FileTree.makeDirsWithin depth files p).1 := by
  induction depth generalizing files p with
  | zero =>
    unfold FileTree.makeDirsWithin
    split
    · exact makeDirOnce (by assumption)
    · exact refl files
    · exact refl files
  | succ depth ih =>
    unfold FileTree.makeDirsWithin
    split
    · exact makeDirOnce (by assumption)
    · have habove := ih files p.parent
      dsimp only
      split
      · rename_i hmade
        rwa [hmade] at habove
      · rename_i hmade
        rw [hmade] at habove
        split
        · exact habove.trans (makeDirOnce (by assumption))
        · exact habove
    · exact refl files

theorem makeDirs (files : FileTree) (p : Path) : KeepsFiles files (files.makeDirs p).1 :=
  makeDirsWithin p.names.length files p

end KeepsFiles

end FileTree

end Signpost
