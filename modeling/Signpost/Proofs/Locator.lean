import Mathlib.Data.List.DropRight
import Signpost.Library
import Signpost.Proofs.FileTree
import Signpost.Proofs.Table
set_option autoImplicit false

/-!
# Locators over time

A locator is asked and told to forget in any order, while directories and files come and go.  Which
starting directory a path stands for depends on the files at that time; what is remembered belongs
to starting directories, not to paths.

So the answer for a starting directory is the first one that was found for it since it was last
forgotten (`firstFound`), from the files of that time, and only where there is none from the files
of now.  Nothing that is done about another starting directory makes a difference, so that to forget
a path has an effect on its next answer only if it stands for the same starting directory still.
-/

namespace Signpost.Locator

/-! ## What can happen -/

/-- What is wanted of a locator. -/
inductive Action where
  | locate (p : Path)
  | forget (p : Path)
  | forgetAll
  deriving DecidableEq, Repr, Inhabited

/-- An action, and the files at that time. -/
structure Turn where
  files : FileTree
  action : Action

/-- The locator after a turn; one that is refused changes nothing. -/
def next (l : Locator) (turn : Turn) : Locator :=
  match turn.action with
  | .locate p => match l.locate turn.files p with | .ok (l, _, _) => l | .error _ => l
  | .forget p => match l.forget turn.files p with | .ok l => l | .error _ => l
  | .forgetAll => l.forgetAll

/-- The locator after some turns. -/
def after (l : Locator) (turns : List Turn) : Locator := turns.foldl next l

/-- The answer for a path. -/
def answer (l : Locator) (files : FileTree) (p : Path) : Except PathFault (Option Location) :=
  (l.locate files p).map fun (_, location, _) => location

/-! ## What it comes to -/

/-- The starting directory that a turn is about, if it is about one. -/
def Turn.start? (turn : Turn) : Option Path :=
  match turn.action with
  | .locate p => (startOf turn.files p).toOption
  | .forget p => (startOf turn.files p).toOption
  | .forgetAll => none

/-- Whether a turn forgets what was found for a starting directory. -/
def Turn.forgets (start : Path) (turn : Turn) : Bool :=
  match turn.action with
  | .locate _ => false
  | .forget _ => turn.start? == some start
  | .forgetAll => true

/-- What looking for the library comes to, from the files at hand. -/
def lookUp (l : Locator) (files : FileTree) (start : Path) : Except PathFault (Option Location) :=
  (Location.above files l.libraryDir l.entryFile start).map Prod.fst

/-- What a turn finds for a starting directory from its own files, if it is about that directory and
nothing fails. -/
def Turn.finds? (l : Locator) (start : Path) (turn : Turn) : Option (Option Location) :=
  match turn.action with
  | .locate _ =>
    if turn.start? = some start then (l.lookUp turn.files start).toOption else none
  | .forget _ => none
  | .forgetAll => none

/-- The first that some turns found for a starting directory since the last of them that forgot
it.  That there is no library is found as well. -/
def firstFound (l : Locator) (start : Path) (turns : List Turn) : Option (Option Location) :=
  (turns.rtakeWhile fun turn => !turn.forgets start).findSome? (Turn.finds? l start)

section

variable {l l' : Locator} {start : Path} {turns : List Turn} {turn : Turn}

/-- One more turn forgets, or finds something if nothing was found before. -/
theorem firstFound_concat (l : Locator) (start : Path) (turns : List Turn) (turn : Turn) :
    firstFound l start (turns ++ [turn]) =
      if turn.forgets start then none
      else (firstFound l start turns).or (turn.finds? l start) := by
  unfold firstFound
  split
  · rename_i hforgets
    rw [List.rtakeWhile_concat_neg _ _ _ (by simp [hforgets])]
    rfl
  · rename_i hkeeps
    rw [List.rtakeWhile_concat_pos _ _ _ (by simpa using hkeeps), List.findSome?_append]
    simp

/-! ## One turn -/

/-- What a locator of the names of `l` holds after some turns. -/
structure Recalls (l : Locator) (turns : List Turn) (l' : Locator) : Prop where
  libraryDir_eq : l'.libraryDir = l.libraryDir
  entryFile_eq : l'.entryFile = l.entryFile
  nodup : (Table.keys l'.found).Nodup
  get?_found : ∀ start, Table.get? l'.found start = firstFound l start turns

theorem Recalls.lookUp_eq (h : Recalls l turns l') (files : FileTree) (start : Path) :
    l'.lookUp files start = l.lookUp files start := by
  rw [lookUp, lookUp, h.libraryDir_eq, h.entryFile_eq]

/-- What is remembered is the answer; anything else is looked up, and remembered if nothing
fails. -/
theorem locateFrom_cases (l : Locator) (files : FileTree) (start : Path) :
    (∃ location, Table.get? l.found start = some location ∧
      l.locateFrom files start = .ok (l, location, [])) ∨
    Table.get? l.found start = none ∧
      ((∃ location notice, l.lookUp files start = .ok location ∧
        l.locateFrom files start =
          .ok ({ l with found := Table.insert l.found start location }, location, [notice])) ∨
      ∃ fault, l.lookUp files start = .error fault ∧
        l.locateFrom files start = .error fault) := by
  unfold locateFrom lookUp
  cases hget : Table.get? l.found start with
  | some location => exact .inl ⟨location, rfl, rfl⟩
  | none =>
    refine .inr ⟨rfl, ?_⟩
    cases Location.above files l.libraryDir l.entryFile start with
    | error fault => exact .inr ⟨fault, rfl, rfl⟩
    | ok result => exact .inl ⟨result.1, result.2, rfl, rfl⟩

/-- A turn that changes nothing in what is remembered. -/
theorem Recalls.unchanged (h : Recalls l turns l') (hforgets : ∀ start, turn.forgets start = false)
    (hfinds : ∀ start, turn.finds? l start = none ∨ (Table.get? l'.found start).isSome = true) :
    Recalls l (turns ++ [turn]) l' where
  libraryDir_eq := h.libraryDir_eq
  entryFile_eq := h.entryFile_eq
  nodup := h.nodup
  get?_found start := by
    rw [firstFound_concat, hforgets, if_neg Bool.false_ne_true, ← h.get?_found]
    rcases hfinds start with hnone | hsome
    · rw [hnone, Option.or_none]
    · obtain ⟨location, hlocation⟩ := Option.isSome_iff_exists.mp hsome
      rw [hlocation, Option.some_or]

/-- A path that stands for no starting directory makes no difference. -/
theorem Recalls.unchanged_of_start?_eq_none (h : Recalls l turns l') (hstart : turn.start? = none)
    (haction : turn.action ≠ .forgetAll) : Recalls l (turns ++ [turn]) l' := by
  obtain ⟨files, action⟩ := turn
  cases action with
  | locate p => exact h.unchanged (fun _ => rfl) fun start => .inl (by simp [Turn.finds?, hstart])
  | forget p => exact h.unchanged (fun start => by simp [Turn.forgets, hstart]) fun _ => .inl rfl
  | forgetAll => exact absurd rfl haction

theorem Recalls.next_locate (h : Recalls l turns l') (files : FileTree) (p : Path) :
    Recalls l (turns ++ [⟨files, .locate p⟩]) (l'.next ⟨files, .locate p⟩) := by
  cases hstart : startOf files p with
  | error fault =>
    have hnext : l'.next ⟨files, .locate p⟩ = l' := by simp [next, locate, hstart, Except.bind]
    rw [hnext]
    exact h.unchanged_of_start?_eq_none (by simp [Turn.start?, hstart, Except.toOption]) (by simp)
  | ok start =>
    have hfinds : ∀ other, Turn.finds? l other ⟨files, .locate p⟩ =
        if start = other then (l.lookUp files other).toOption else none := by
      intro other
      simp [Turn.finds?, Turn.start?, hstart, Except.toOption]
    rcases locateFrom_cases l' files start with
      ⟨location, hget, hlocate⟩ | ⟨hget, ⟨location, notice, hlook, hlocate⟩ | ⟨fault, hlook, hlocate⟩⟩
    · have hnext : l'.next ⟨files, .locate p⟩ = l' := by
        simp [next, locate, hstart, Except.bind, hlocate]
      rw [hnext]
      refine h.unchanged (fun _ => rfl) fun other => ?_
      by_cases hother : start = other
      · exact .inr (by rw [← hother, hget]; rfl)
      · exact .inl (by rw [hfinds, if_neg hother])
    · have hnext : l'.next ⟨files, .locate p⟩ =
          { l' with found := Table.insert l'.found start location } := by
        simp [next, locate, hstart, Except.bind, hlocate]
      rw [h.lookUp_eq] at hlook
      rw [hnext]
      refine ⟨h.libraryDir_eq, h.entryFile_eq, Table.nodup_keys_insert h.nodup _ _, ?_⟩
      intro other
      have hforgets : Turn.forgets other ⟨files, .locate p⟩ = false := rfl
      rw [firstFound_concat, hforgets, if_neg Bool.false_ne_true, hfinds, Table.get?_insert]
      by_cases hother : start = other
      · subst hother
        rw [h.get?_found] at hget
        simp [hget, hlook, Except.toOption]
      · simp [hother, h.get?_found]
    · have hnext : l'.next ⟨files, .locate p⟩ = l' := by
        simp [next, locate, hstart, Except.bind, hlocate]
      rw [h.lookUp_eq] at hlook
      rw [hnext]
      refine h.unchanged (fun _ => rfl) fun other => .inl ?_
      rw [hfinds]
      split
      · rename_i hother
        rw [← hother, hlook]
        rfl
      · rfl

theorem Recalls.next_forget (h : Recalls l turns l') (files : FileTree) (p : Path) :
    Recalls l (turns ++ [⟨files, .forget p⟩]) (l'.next ⟨files, .forget p⟩) := by
  cases hstart : startOf files p with
  | error fault =>
    have hnext : l'.next ⟨files, .forget p⟩ = l' := by simp [next, forget, hstart, Except.map]
    rw [hnext]
    exact h.unchanged_of_start?_eq_none (by simp [Turn.start?, hstart, Except.toOption]) (by simp)
  | ok start =>
    have hnext : l'.next ⟨files, .forget p⟩ =
        { l' with found := Table.erase l'.found start } := by
      simp [next, forget, hstart, Except.map]
    rw [hnext]
    refine ⟨h.libraryDir_eq, h.entryFile_eq, Table.nodup_keys_erase h.nodup _, ?_⟩
    intro other
    have hforgets : Turn.forgets other ⟨files, .forget p⟩ = (start == other) := by
      simp [Turn.forgets, Turn.start?, hstart, Except.toOption]
    rw [firstFound_concat, hforgets, Table.get?_erase h.nodup, h.get?_found]
    simp [Turn.finds?]

/-- One turn. -/
theorem Recalls.next (h : Recalls l turns l') (turn : Turn) :
    Recalls l (turns ++ [turn]) (l'.next turn) := by
  obtain ⟨files, action⟩ := turn
  cases action with
  | locate p => exact h.next_locate files p
  | forget p => exact h.next_forget files p
  | forgetAll =>
    refine ⟨h.libraryDir_eq, h.entryFile_eq, List.nodup_nil, fun start => ?_⟩
    have hforgets : Turn.forgets start ⟨files, .forgetAll⟩ = true := rfl
    rw [firstFound_concat, hforgets, if_pos rfl]
    rfl

/-! ## Many turns -/

/-- A locator that starts out with nothing holds what was found first. -/
theorem recalls_after (hnew : l.found = []) (turns : List Turn) :
    Recalls l turns (l.after turns) := by
  induction turns using List.reverseRecOn with
  | nil =>
    refine ⟨rfl, rfl, by simp [after, hnew, Table.keys], fun start => ?_⟩
    rw [after, List.foldl_nil, hnew]
    rfl
  | append_singleton turns turn ih =>
    rw [after, List.foldl_append]
    exact ih.next turn

/-- A turn that neither forgets a starting directory nor finds anything for it might as well not have
been. -/
theorem firstFound_remove {before between : List Turn} (hforgets : turn.forgets start = false)
    (hfinds : turn.finds? l start = none) :
    firstFound l start (before ++ turn :: between) = firstFound l start (before ++ between) := by
  induction between using List.reverseRecOn with
  | nil =>
    rw [firstFound_concat, hforgets, hfinds, if_neg Bool.false_ne_true, Option.or_none,
      List.append_nil]
  | append_singleton between last ih =>
    rw [← List.cons_append, ← List.append_assoc, ← List.append_assoc, firstFound_concat,
      firstFound_concat, ih]

/-! ## Answers -/

/-- The starting directory for a path is the path itself, where it leads to a directory, and else
the directory above it. -/
theorem eq_of_startOf {files : FileTree} {p : Path} (h : startOf files p = .ok start) :
    start = if files.isDir (files.resolve p) then files.resolve p
      else (files.resolve p).parent := by
  unfold startOf FileTree.resolveUsable at h
  split at h
  · simp at h
  · rename_i path hpath
    split at hpath
    · obtain rfl := Except.ok.inj hpath
      obtain ⟨isDir, hsee, rfl⟩ := map_eq_ok_iff.mp h
      rw [FileTree.eq_isDir_of_seeDir hsee]
    · simp at hpath

theorem Recalls.answer_eq (h : Recalls l turns l') {files : FileTree} {p : Path}
    (hstart : startOf files p = .ok start) :
    l'.answer files p = match l.firstFound start turns with
      | some location => .ok location
      | none => l.lookUp files start := by
  have hanswer : l'.answer files p =
      (l'.locateFrom files start).map fun (_, location, _) => location := by
    rw [answer, locate, hstart]
    rfl
  rw [hanswer, ← h.get?_found, ← h.lookUp_eq]
  rcases locateFrom_cases l' files start with
    ⟨location, hget, hlocate⟩ | ⟨hget, ⟨location, notice, hlook, hlocate⟩ | ⟨fault, hlook, hlocate⟩⟩
  · rw [hlocate, hget]
    rfl
  · rw [hlocate, hget, hlook]
    rfl
  · rw [hlocate, hget, hlook]
    rfl

/-- The answer for a path is what was found first for its starting directory since that was last
forgotten, be it that there is no library, and whatever has become of the files.  Only where there
is nothing yet it is looked up in the files of now.  To forget another starting directory makes no
difference. -/
theorem answer_after (hnew : l.found = []) (turns : List Turn) {files : FileTree} {p : Path}
    (hstart : startOf files p = .ok start) :
    (start = if files.isDir (files.resolve p) then files.resolve p
      else (files.resolve p).parent) ∧
    ((l.after turns).answer files p = match l.firstFound start turns with
      | some location => .ok location
      | none => l.lookUp files start) ∧
    ∀ before past q between, turns = before ++ ⟨past, .forget q⟩ :: between →
      startOf past q ≠ .ok start →
        (l.after turns).answer files p = (l.after (before ++ between)).answer files p := by
  refine ⟨eq_of_startOf hstart, (recalls_after hnew turns).answer_eq hstart, ?_⟩
  rintro before past q between rfl hother
  have hforgets : Turn.forgets start ⟨past, .forget q⟩ = false := by
    cases hq : startOf past q with
    | error fault => simp [Turn.forgets, Turn.start?, hq, Except.toOption]
    | ok other =>
      have hne : other ≠ start := fun heq => hother (by rw [hq, heq])
      simp [Turn.forgets, Turn.start?, hq, Except.toOption, hne]
  rw [(recalls_after hnew _).answer_eq hstart, (recalls_after hnew _).answer_eq hstart,
    firstFound_remove hforgets rfl]

/-- A directory has become a file in the meantime, and the library has come; the directory above the
file is the one that was asked about first, and that it had no library is remembered. -/
theorem answer_after_miss :
    let l : Locator := {}
    let past : FileTree := { top := .dir [("a", .dir [("b", .dir [])])] }
    let files : FileTree :=
      { top := .dir [("a", .dir [("b", .file []), ("cslib", .dir [("main.py", .file [])])])] }
    let asked : List Turn := [⟨past, .locate (.ofText "/a")⟩, ⟨past, .forget (.ofText "/a/b")⟩]
    startOf files (.ofText "/a/b") = .ok (.ofText "/a") ∧ l.found = [] ∧
      (l.after asked).answer files (.ofText "/a/b") = .ok none ∧
      (l.after (asked ++ [⟨files, .forget (.ofText "/a/b")⟩])).answer files (.ofText "/a/b") =
        .ok (some ⟨.ofText "/a", .ofText "/a/cslib", .ofText "/a/cslib/main.py"⟩) := by
  intro l past files asked
  have hstart : startOf files (.ofText "/a/b") = .ok (.ofText "/a") := by decide +kernel
  obtain ⟨_, hmiss, _⟩ := answer_after (l := l) rfl asked hstart
  obtain ⟨_, hfound, _⟩ :=
    answer_after (l := l) rfl (asked ++ [⟨files, .forget (.ofText "/a/b")⟩]) hstart
  have hfirst : l.firstFound (.ofText "/a") asked = some none := by decide +kernel
  have hforgotten : l.firstFound (.ofText "/a") (asked ++ [⟨files, .forget (.ofText "/a/b")⟩]) =
      none := by decide +kernel
  refine ⟨hstart, rfl, ?_, ?_⟩
  · rw [hmiss, hfirst]
  · rw [hfound, hforgotten]
    decide +kernel

/-! ## After forgetting -/

/-- What came before a starting directory was forgotten makes no difference. -/
theorem firstFound_of_forgets {before between : List Turn} (h : turn.forgets start = true) :
    firstFound l start (before ++ turn :: between) = firstFound l start between := by
  induction between using List.reverseRecOn with
  | nil =>
    rw [firstFound_concat, if_pos h]
    rfl
  | append_singleton between last ih =>
    rw [← List.cons_append, ← List.append_assoc, firstFound_concat, firstFound_concat, ih]

theorem forgets_forget_iff {files : FileTree} {q : Path} :
    Turn.forgets start ⟨files, .forget q⟩ = true ↔ startOf files q = .ok start := by
  cases hq : startOf files q <;> simp [Turn.forgets, Turn.start?, hq, Except.toOption]

/-- To look for the library from another starting directory finds nothing for this one. -/
theorem finds?_eq_none
    (h : ∀ q, turn.action = .locate q → startOf turn.files q ≠ .ok start) :
    turn.finds? l start = none := by
  obtain ⟨files, action⟩ := turn
  cases action with
  | locate q =>
    have hother := h q rfl
    cases hq : startOf files q <;> simp_all [Turn.finds?, Turn.start?, Except.toOption]
  | forget q => rfl
  | forgetAll => rfl

theorem firstFound_eq_none
    (h : ∀ turn ∈ turns, ∀ q, turn.action = .locate q → startOf turn.files q ≠ .ok start) :
    firstFound l start turns = none :=
  List.findSome?_eq_none_iff.mpr fun turn hturn =>
    finds?_eq_none (h turn ((List.rtakeWhile_suffix _ _).subset hturn))

/-- A path that cannot be used has that for an answer, whatever is remembered. -/
theorem answer_of_startOf_eq_error (l : Locator) {files : FileTree} {p : Path} {fault : PathFault}
    (h : startOf files p = .error fault) : l.answer files p = .error fault := by
  rw [answer, locate, h]
  rfl

/-- A path is forgotten, and later it is asked about.  If it stands for the same starting directory
both times, the answer is that of a locator that was new when the path was forgotten, and that of
one that is new now, unless the library has been looked for from there in between.  If it stands for
another one now, to forget it made no difference. -/
theorem answer_after_forget (hnew : l.found = []) (before between : List Turn)
    (past files : FileTree) (p : Path) :
    (startOf past p = startOf files p →
      (l.after (before ++ ⟨past, .forget p⟩ :: between)).answer files p =
        (l.after between).answer files p) ∧
    (startOf past p = startOf files p →
      (∀ turn ∈ between, ∀ q, turn.action = .locate q →
        startOf turn.files q ≠ startOf files p) →
      (l.after (before ++ ⟨past, .forget p⟩ :: between)).answer files p = l.answer files p) ∧
    (startOf past p ≠ startOf files p →
      (l.after (before ++ ⟨past, .forget p⟩ :: between)).answer files p =
        (l.after (before ++ between)).answer files p) := by
  cases hstart : startOf files p with
  | error fault => simp only [answer_of_startOf_eq_error _ hstart, implies_true, and_self]
  | ok start =>
    have hafter := fun turns => (recalls_after hnew turns).answer_eq hstart
    have hsame : startOf past p = .ok start →
        firstFound l start (before ++ ⟨past, .forget p⟩ :: between) =
          firstFound l start between := fun hpast =>
      firstFound_of_forgets (forgets_forget_iff.mpr hpast)
    have hother : startOf past p ≠ .ok start →
        firstFound l start (before ++ ⟨past, .forget p⟩ :: between) =
          firstFound l start (before ++ between) := fun hpast =>
      firstFound_remove (Bool.eq_false_iff.mpr fun h => hpast (forgets_forget_iff.mp h)) rfl
    refine ⟨fun hpast => ?_, fun hpast hnone => ?_, fun hpast => ?_⟩
    · rw [hafter, hafter, hsame hpast]
    · have hfresh : l.answer files p = l.lookUp files start := hafter []
      rw [hafter, hsame hpast, firstFound_eq_none hnone, hfresh]
    · rw [hafter, hafter, hother hpast]

/-- That there was no library is forgotten with the directory, and the library that has come is
found; to look for it from the root in between makes no difference. -/
theorem answer_after_forget_found :
    let l : Locator := {}
    let past : FileTree := { top := .dir [("a", .dir [])] }
    let files : FileTree := { top := .dir [("a", .dir [("cslib", .dir [("main.py", .file [])])])] }
    let before : List Turn := [⟨past, .locate (.ofText "/a")⟩]
    let between : List Turn := [⟨past, .locate (.ofText "/")⟩]
    l.found = [] ∧ startOf past (.ofText "/a") = startOf files (.ofText "/a") ∧
      (l.after (before ++ between)).answer files (.ofText "/a") = .ok none ∧
      (l.after (before ++ ⟨past, .forget (.ofText "/a")⟩ :: between)).answer files (.ofText "/a") =
        .ok (some ⟨.ofText "/a", .ofText "/a/cslib", .ofText "/a/cslib/main.py"⟩) := by
  intro l past files before between
  have hsame : startOf past (.ofText "/a") = startOf files (.ofText "/a") := by decide +kernel
  obtain ⟨_, hfresh, _⟩ := answer_after_forget (l := l) rfl before between past files (.ofText "/a")
  have hroot : startOf past (.ofText "/") ≠ startOf files (.ofText "/a") := by decide +kernel
  refine ⟨rfl, hsame, by decide +kernel, ?_⟩
  rw [hfresh hsame ?_]
  · decide +kernel
  · intro turn hturn q hq
    obtain rfl := List.mem_singleton.mp hturn
    obtain rfl := Action.locate.inj hq
    exact hroot

/-- The path was a directory when it was forgotten, and it was none when the library was looked for
and is none now.  That there was no library above it is still remembered.  So it is when the library
has been looked for once more, for another path in the directory, before it has come. -/
theorem answer_after_forget_stale :
    let l : Locator := {}
    let first : FileTree := { top := .dir [("a", .dir [])] }
    let past : FileTree := { top := .dir [("a", .dir [("b", .dir [])])] }
    let files : FileTree :=
      { top := .dir [("a", .dir [("b", .file []), ("cslib", .dir [("main.py", .file [])])])] }
    let moved : List Turn := [⟨first, .locate (.ofText "/a/b")⟩, ⟨past, .forget (.ofText "/a/b")⟩]
    let again : List Turn := [⟨first, .forget (.ofText "/a/b")⟩, ⟨first, .locate (.ofText "/a/c")⟩]
    l.found = [] ∧ (l.after moved).answer files (.ofText "/a/b") = .ok none ∧
      (l.after again).answer files (.ofText "/a/b") = .ok none ∧
      l.answer files (.ofText "/a/b") =
        .ok (some ⟨.ofText "/a", .ofText "/a/cslib", .ofText "/a/cslib/main.py"⟩) := by
  decide +kernel

end

end Signpost.Locator
