import Signpost.Store
set_option autoImplicit false

/-!
# What a store has read

A store is known from what reading its source came to, time after time: it has the index of the last
text that could be read, and the number of these texts (`afterReadings`).  Every rebuild is one more
reading (`store_reread`), and a reading that fails leaves no trace but that something was tried.

A path that cannot be used names no file, so there is nothing to read and a rebuild is refused.
-/

namespace Signpost

/-! ## Paths that cannot be used -/

namespace FileTree

/-- Going through a tree, no name is found to be unusable. -/
theorem walk_ne_unusable (here : Node) (above : List Node) (names : List Text) :
    walk here above names ≠ .error .unusable := by
  fun_induction walk here above names with
  | case3 above name names isDirectory => cases isDirectory <;> simp
  | case4 | case5 | case8 => assumption
  | _ => simp

theorem find_eq_unusable_iff (files : FileTree) {p : Path} :
    files.find p = .error .unusable ↔ p.isUsable = false := by
  unfold find
  cases p.isUsable with
  | false => simp
  | true =>
    by_cases hlong : maxPathBytes < byteLength p.text
    · simp [hlong]
    · simp [hlong, walk_ne_unusable]

/-- Only the path itself makes a read unusable, never what the files are. -/
theorem readText_eq_unusable_iff {files : FileTree} {p : Path} :
    files.readText p = .error (.unopened .unusable) ↔ p.isUsable = false := by
  rw [← find_eq_unusable_iff files]
  unfold readText readBytes
  cases files.find p with
  | error fault => simp
  | ok node =>
    cases node with
    | dir entries => simp
    | locked isDirectory => simp
    | file bytes => cases hdecode : Text.Utf8.decode bytes <;> simp [hdecode]

end FileTree

/-! ## Readings -/

/-- What reading a source came to: its text, or why there is none. -/
abbrev Reading := Except ReadFault Text

namespace Reading

/-- The texts that were read. -/
def texts (rs : List Reading) : List Text := rs.filterMap Except.toOption

/-- What the caller of a rebuild is told about its reading. -/
def verdict (source : Path) (strict : Bool) : Reading → Except Report Bool
  | .ok _ => .ok true
  | .error fault =>
    if strict then .error (.unreadableSource source.text (fault.message source)) else .ok false

theorem texts_concat_ok (rs : List Reading) (text : Text) :
    texts (rs ++ [.ok text]) = texts rs ++ [text] := by
  simp [texts, Except.toOption]

theorem texts_concat_error (rs : List Reading) (fault : ReadFault) :
    texts (rs ++ [.error fault]) = texts rs := by
  simp [texts, Except.toOption]

end Reading

/-- Whether a notice is that a source was read, or that it could not be. -/
def Notice.isOfReading : Notice → Bool
  | .indexBuilt .. => true
  | .rebuildFailed .. => true
  | _ => false

namespace Store

open Reading

/-- The index of the last text that could be read; empty if there is none. -/
def indexAfter (s : Store) (rs : List Reading) : Index :=
  match (texts rs).getLast? with
  | some text => Index.build s.dialect s.blocked text
  | none => []

/-- The store after its source was read some times. -/
def afterReadings (s : Store) (rs : List Reading) : Store :=
  { s with
    index := if rs.isEmpty then none else some (s.indexAfter rs)
    generation := (texts rs).length }

/-- The store after one reading. -/
def reread (s : Store) : Reading → Rebuilt
  | .ok text => s.built text
  | .error fault => s.unread (fault.message s.path)

variable {s : Store} {rs : List Reading} {files : FileTree}

theorem isBuilt_afterReadings : (s.afterReadings rs).isBuilt = !rs.isEmpty := by
  unfold isBuilt afterReadings
  cases rs.isEmpty <;> rfl

theorem current_afterReadings : (s.afterReadings rs).current = s.indexAfter rs := by
  unfold current afterReadings
  cases rs <;> rfl

theorem indexAfter_concat_error (fault : ReadFault) :
    s.indexAfter (rs ++ [.error fault]) = s.indexAfter rs := by
  rw [indexAfter, indexAfter, texts_concat_error]

/-- A reading that fails is noticed only by a store that has not tried before. -/
theorem afterReadings_concat_error (h : rs ≠ []) (fault : ReadFault) :
    s.afterReadings (rs ++ [.error fault]) = s.afterReadings rs := by
  have hempty : rs.isEmpty = false := by simpa using h
  simp [afterReadings, indexAfter_concat_error, texts_concat_error, hempty]

/-! ## One more reading -/

theorem rebuild_of_unusable (h : s.path.isUsable = false) : s.rebuild files = .error .unusable := by
  rw [rebuild, FileTree.readText_eq_unusable_iff.mpr h]

theorem rebuild_of_usable (h : s.path.isUsable = true) :
    s.rebuild files = .ok (s.reread (files.readText s.path)) := by
  have hne : files.readText s.path ≠ .error (.unopened .unusable) := fun hread => by
    rw [FileTree.readText_eq_unusable_iff, h] at hread
    simp at hread
  unfold rebuild
  split
  · rename_i text hread
    rw [hread, reread]
  · rename_i hread
    exact absurd hread hne
  · rename_i fault _ hread
    rw [hread, reread]

theorem store_reread (r : Reading) :
    ((s.afterReadings rs).reread r).store = s.afterReadings (rs ++ [r]) := by
  cases r with
  | ok text =>
    simp only [reread, built, afterReadings, indexAfter, texts_concat_ok]
    simp
  | error fault =>
    have hcurrent : (s.afterReadings rs).current = s.indexAfter rs := current_afterReadings
    simp only [reread, unread, hcurrent]
    simp [afterReadings, indexAfter_concat_error, texts_concat_error]

theorem outcome_reread (r : Reading) (strict : Bool) :
    (s.reread r).outcome strict = verdict s.path strict r := by
  cases r <;> rfl

/-- Every reading is noticed, once. -/
theorem countP_notices_reread (r : Reading) :
    (s.reread r).notices.countP Notice.isOfReading = 1 := by
  cases r with
  | error fault => rfl
  | ok text => simp [reread, built, List.countP_map, Notice.isOfReading, Function.comp_def]

/-- Only a store that has not tried yet reads its source unasked. -/
theorem ensured_afterReadings :
    (s.afterReadings rs).ensured files =
      if rs.isEmpty then ((s.afterReadings rs).rebuild files).map fun r => (r.store, r.notices)
      else .ok (s.afterReadings rs, []) := by
  rw [ensured, isBuilt_afterReadings]
  cases rs.isEmpty <;> rfl

end Store

end Signpost
