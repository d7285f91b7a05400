import Signpost.Log.Router
import Signpost.Proofs.FileTree.Change
set_option autoImplicit false

/-!
# What destinations receive

Whatever is done to the sinks, a file keeps what it held and has some bytes after it
(`Sinks.Receives`).  Making a destination ready adds nothing to any file (`receives_openFor`), and
afterwards a record that is written to it arrives, if the file can hold it (`isReady_openFor`,
`receives_put`).  A destination that is ready stays so.
-/

namespace Signpost

open Text

namespace Settings.Destination

/-- Whether records for a destination go to the file that a path stands for. -/
def isFile (working p : Path) : Destination → Bool
  | .file path => Path.resolve working path == Path.resolve working p
  | _ => false

end Settings.Destination

namespace Log.Sinks

open Settings

/-- The bytes of the file that a path stands for; none if there is no such file. -/
def held (s : Sinks) (p : Path) : List UInt8 :=
  (s.files.top.fileAt? (s.placeOf p).names).getD []

/-- A destination that takes what is written to it. -/
def IsReady (s : Sinks) : Destination → Prop
  | .file path => ∃ bytes, s.files.find (s.placeOf path) = .ok (.file bytes)
  | _ => True

/-- The first sinks have become the second by what was written: `bytes p` to the file that `p`
stands for. -/
structure Receives (s s' : Sinks) (bytes : Path → List UInt8) : Prop where
  working_eq : s'.files.working = s.files.working
  held_eq : ∀ p, s'.held p = s.held p ++ bytes p
  isReady : ∀ d, s.IsReady d → s'.IsReady d

namespace Receives

variable {s s' s'' : Sinks} {bytes more : Path → List UInt8}

theorem refl (s : Sinks) : Receives s s fun _ => [] :=
  ⟨rfl, fun _ => (List.append_nil _).symm, fun _ h => h⟩

theorem trans (h : Receives s s' bytes) (h' : Receives s' s'' more) :
    Receives s s'' fun p => bytes p ++ more p where
  working_eq := h'.working_eq.trans h.working_eq
  held_eq p := by
    rw [h'.held_eq, h.held_eq, List.append_assoc]
  isReady d hd := h'.isReady d (h.isReady d hd)

theorem congr (h : Receives s s' bytes) (hbytes : ∀ p, bytes p = more p) : Receives s s' more :=
  funext hbytes ▸ h

end Receives

variable {s s' : Sinks} {bytes : List UInt8} {path : Path}

theorem isResolved_placeOf (s : Sinks) (path : Path) : (s.placeOf path).IsResolved :=
  Path.isResolved_resolve _ _

theorem resolve_placeOf (s : Sinks) (path : Path) :
    s.files.resolve (s.placeOf path) = s.placeOf path :=
  (Path.isResolved_iff _).mp (s.isResolved_placeOf path)

theorem placeOf_congr (h : s'.files.working = s.files.working) (path : Path) :
    s'.placeOf path = s.placeOf path := by
  rw [placeOf, FileTree.resolve, h]
  rfl

/-- A destination is the file that a path stands for if both come to the same place. -/
theorem isFile_iff {p : Path} :
    (Destination.file path).isFile s.files.working p = true ↔
      (s.placeOf p).names = (s.placeOf path).names := by
  rw [Destination.isFile, beq_iff_eq, eq_comm]
  exact ⟨congrArg Path.names, congrArg (Path.mk .root)⟩

/-- A ready destination stays ready while no file goes away. -/
theorem IsReady.of_fileAt? {d : Destination} (h : s.IsReady d)
    (hworking : s'.files.working = s.files.working)
    (hfiles : ∀ q, (s.files.top.fileAt? q).isSome = true → (s'.files.top.fileAt? q).isSome = true) :
    s'.IsReady d := by
  cases d with
  | stderr => trivial
  | stdout => trivial
  | file path =>
    obtain ⟨old, hold⟩ := h
    have hat := FileTree.at?_of_find hold
    rw [resolve_placeOf] at hat
    have hsome := hfiles (s.placeOf path).names
      (by rw [Node.fileAt?_of_at? hat, Option.isSome_some])
    obtain ⟨bytes, hbytes⟩ := Option.isSome_iff_exists.mp hsome
    rw [IsReady, placeOf_congr hworking]
    exact ⟨bytes, FileTree.find_of_fileAt? (s.isResolved_placeOf path) hold hbytes⟩

theorem receives_of_keepsFiles (h : s.files.KeepsFiles s'.files) :
    Receives s s' fun _ => [] where
  working_eq := h.working_eq
  held_eq p := by
    rw [held, held, placeOf_congr h.working_eq, h.fileAt?_eq]
    exact (List.append_nil _).symm
  isReady d hd := hd.of_fileAt? h.working_eq fun q hq => by rwa [h.fileAt?_eq]

/-- Appending to a file writes what it held, and the bytes after that. -/
theorem exists_write_of_appendFile (h : s.appendFile (s.placeOf path) bytes = .ok s') :
    ∃ files, s.files.write (s.placeOf path) (s.held path ++ bytes) = .ok files ∧
      s'.files = files := by
  obtain ⟨files, hwrite, rfl⟩ := map_eq_ok_iff.mp h
  refine ⟨files, ?_, rfl⟩
  have hread := FileTree.toOption_readBytes_of_write hwrite
  rw [resolve_placeOf] at hread
  rw [held, ← hread]
  cases hbytes : s.files.readBytes (s.placeOf path) <;> rwa [hbytes] at hwrite

/-- A file to which something has been appended has it at its end, and takes more. -/
theorem receives_appendFile (h : s.appendFile (s.placeOf path) bytes = .ok s') :
    (Receives s s' fun p =>
        if (Destination.file path).isFile s.files.working p then bytes else []) ∧
      s'.IsReady (.file path) := by
  obtain ⟨files, hwrite, hs⟩ := exists_write_of_appendFile h
  have hworking : s'.files.working = s.files.working := by
    rw [hs, FileTree.working_write hwrite]
  have hfiles (q : List Text) : s'.files.top.fileAt? q =
      if q = (s.placeOf path).names then some (s.held path ++ bytes)
      else s.files.top.fileAt? q := by
    rw [hs, FileTree.fileAt?_write hwrite, resolve_placeOf]
  refine ⟨⟨hworking, fun p => ?_, fun d hd => hd.of_fileAt? hworking fun q hq => ?_⟩, ?_⟩
  · rw [held, placeOf_congr hworking, hfiles]
    by_cases hp : (s.placeOf p).names = (s.placeOf path).names
    · rw [if_pos hp, if_pos (isFile_iff.mpr hp), held, held, hp]
      rfl
    · rw [if_neg hp, if_neg fun hfile => hp (isFile_iff.mp hfile)]
      exact (List.append_nil _).symm
  · rw [hfiles]
    split
    · rfl
    · exact hq
  · rw [IsReady, placeOf_congr hworking, hs]
    exact ⟨_, FileTree.find_write (s.isResolved_placeOf path) hwrite⟩

/-! ## Writing -/

/-- What is written to a ready destination arrives, if a file can hold it. -/
theorem receives_put {record : Destination × Line} (h : s.IsReady record.1) :
    Receives s (s.put record) fun p =>
      if record.1.isFile s.files.working p then record.2.bytes?.getD [] else [] := by
  obtain ⟨d, line⟩ := record
  cases d with
  | stderr => exact receives_of_keepsFiles (.refl s.files)
  | stdout => exact receives_of_keepsFiles (.refl s.files)
  | file path =>
    obtain ⟨old, hold⟩ := h
    obtain ⟨shown, bytes?⟩ := line
    cases bytes? with
    | none => exact (Receives.refl s).congr fun p => (ite_self _).symm
    | some bytes =>
      obtain ⟨files, hwrite⟩ := FileTree.exists_write hold (old ++ bytes)
      have happend : s.appendFile (s.placeOf path) bytes =
          .ok { s with files, appended := s.appended ++ [(s.placeOf path, bytes)] } := by
        simp [appendFile, FileTree.readBytes, hold, hwrite, Except.map]
      dsimp only [put]
      rw [happend]
      exact (receives_appendFile happend).1

/-- Lines that are written to ready destinations arrive, in order, as far as files can hold them. -/
theorem receives_foldl_put (records : List (Destination × Line))
    (h : ∀ r ∈ records, s.IsReady r.1) :
    Receives s (records.foldl put s) fun p =>
      ((records.filter (·.1.isFile s.files.working p)).filterMap (·.2.bytes?)).flatten := by
  induction records generalizing s with
  | nil => exact .refl s
  | cons r rest ih =>
    obtain ⟨hr, hrest⟩ := List.forall_mem_cons.mp h
    have hput := receives_put hr
    have hlater := ih fun r' hr' => hput.isReady _ (hrest r' hr')
    refine (hput.trans hlater).congr fun p => ?_
    rw [hput.working_eq, List.filter_cons]
    split
    · rw [List.filterMap_cons]
      cases r.2.bytes? <;> rfl
    · rfl

/-! ## Making ready -/

/-- A file is made ready by making the directories above it and appending nothing to it. -/
theorem openFile_cases (s : Sinks) (path : Path) :
    ∃ files, s.files.KeepsFiles files ∧
      ((∃ fault, s.openFile path = ({ s with files }, some fault)) ∨
        ∃ s', appendFile (placeOf path { s with files }) [] { s with files } = .ok s' ∧
          s.openFile path = (s', none)) := by
  have hkeeps := FileTree.KeepsFiles.makeDirs s.files path.parent
  unfold openFile
  generalize s.files.makeDirs path.parent = made at hkeeps ⊢
  obtain ⟨files, fault⟩ := made
  refine ⟨files, hkeeps, ?_⟩
  cases fault with
  | some fault => exact .inl ⟨fault, rfl⟩
  | none =>
    dsimp only
    cases happend : appendFile (placeOf path { s with files }) [] { s with files } with
    | error fault => exact .inl ⟨fault, rfl⟩
    | ok s' => exact .inr ⟨s', rfl, rfl⟩

/-- Making a destination ready adds nothing to any file. -/
theorem receives_openFor (s : Sinks) (d : Destination) :
    Receives s (s.openFor d).1 fun _ => [] := by
  cases d with
  | stderr => exact .refl s
  | stdout => exact .refl s
  | file path =>
    obtain ⟨files, hkeeps, ⟨fault, hopen⟩ | ⟨s', happend, hopen⟩⟩ := s.openFile_cases path
    · rw [openFor, hopen]
      exact receives_of_keepsFiles hkeeps
    · rw [openFor, hopen]
      have hmade : Receives s { s with files } fun _ => [] := receives_of_keepsFiles hkeeps
      exact (hmade.trans (receives_appendFile happend).1).congr fun p => by simp

theorem isReady_openFor {d : Destination} (h : (s.openFor d).2 = none) :
    (s.openFor d).1.IsReady d := by
  cases d with
  | stderr => trivial
  | stdout => trivial
  | file path =>
    obtain ⟨files, _, ⟨fault, hopen⟩ | ⟨s', happend, hopen⟩⟩ := s.openFile_cases path
    · rw [openFor, hopen] at h
      exact nomatch h
    · rw [openFor, hopen]
      exact (receives_appendFile happend).2

/-- A log file is opened where there is room for it. -/
theorem openFor_of_hasRoomFor (h : s.files.HasRoomFor path) :
    (s.openFor (.file path)).2 = none := by
  have hplace : s.placeOf path = path := (Path.isResolved_iff _).mp h.isResolved
  have happend : ∃ s', s.appendFile path [] = .ok s' := by
    obtain ⟨files, hwrite⟩ := h.exists_write _
    exact ⟨_, map_eq_ok_iff.mpr ⟨files, hwrite, rfl⟩⟩
  obtain ⟨s', happend⟩ := happend
  obtain ⟨entries, hparent⟩ := h.parent
  have hisDir : s.files.isDir path.parent = true := by rw [FileTree.isDir, hparent]; rfl
  rw [openFor, openFile, FileTree.makeDirs_of_isDir hisDir]
  dsimp only
  rw [hplace, happend]

end Log.Sinks

end Signpost
