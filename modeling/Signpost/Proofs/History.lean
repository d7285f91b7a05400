import Signpost.Proofs.Store
import Signpost.Session
set_option autoImplicit false

/-!
# Sessions over time

A session is asked and told to rebuild in any order, while its source file changes, disappears and
comes back in between.  All that it keeps of this are the readings of the file (`readings`): one for
each rebuild, and one for the first question that has something to look up, if there was no rebuild
before.  From them everything else follows: which index the session has, how many it has built, and
what it answers (`Follows`).
-/

namespace Signpost.Session

open Query Text Reading

/-! ## What can happen -/

/-- A question to a session. -/
inductive Question where
  | index
  | hover (line : Text) (column : Int)
  | complete (line : Text) (column : Int) (trigger : Option Text)
  deriving DecidableEq, Repr, Inhabited

/-- The answer to a question. -/
inductive Reply where
  | index (index : Index)
  | hover (content : Option Hover)
  | items (items : List Text)
  deriving Repr, Inhabited

/-- What is wanted of a session. -/
inductive Action where
  | ask (question : Question)
  | rebuild (strict : Bool)
  deriving DecidableEq, Repr, Inhabited

/-- What a session gives back. -/
inductive Answer where
  | reply (reply : Reply)
  /-- Whether there is a new index, or the report on why not. -/
  | rebuilt (outcome : Except Report Bool)

/-- An action, and the files at that time. -/
structure Turn where
  files : FileTree
  action : Action

/-- Does what is wanted: the session after it, the answer, and what there is to note. -/
def perform (files : FileTree) (action : Action) (s : Session) :
    Except PathFault (Session × Answer × List Notice) :=
  match action with
  | .ask .index =>
    (s.ensured files).map fun (s, notices) => (s, .reply (.index s.store.current), notices)
  | .ask (.hover line column) =>
    (s.hover files line column).map fun (s, content, notices) =>
      (s, .reply (.hover content), notices)
  | .ask (.complete line column trigger) =>
    (s.complete files line column trigger).map fun (s, items, notices) =>
      (s, .reply (.items items), notices)
  | .rebuild strict =>
    (s.store.rebuild files).map fun r =>
      ({ s with store := r.store }, .rebuilt (r.outcome strict), r.notices)

/-- The session after a turn; one that is refused changes nothing. -/
def next (turn : Turn) (s : Session) : Session :=
  match s.perform turn.files turn.action with
  | .ok (s, _, _) => s
  | .error _ => s

/-- The session after some turns. -/
def after : List Turn → Session → Session
  | [], s => s
  | turn :: turns, s => after turns (s.next turn)

/-- What a session gives back in some turns. -/
def answers : List Turn → Session → List (Except PathFault Answer)
  | [], _ => []
  | turn :: turns, s =>
    (s.perform turn.files turn.action).map (·.2.1) :: answers turns (s.next turn)

/-! ## What it comes to -/

/-- The answer to a question from an index. -/
def Question.replyFrom (names : NameTable) (hints : Settings.Hints) (index : Index) :
    Question → Reply
  | .index => .index index
  | .hover line column => .hover (hoverIn index names line column)
  | .complete line column trigger => .items (completeIn index names hints line column trigger)

/-- Whether a question has something to look up in the index. -/
def Question.needsIndex : Question → Bool
  | .hover line column => (wordAt line column).isSome
  | _ => true

/-- Whether an action reads the source, after some readings. -/
def Action.reads (rs : List Reading) : Action → Bool
  | .ask question => rs.isEmpty && question.needsIndex
  | .rebuild _ => true

/-- The readings of a source after a turn.  A path that cannot be used is not read. -/
def readingsAfter (source : Path) (rs : List Reading) (turn : Turn) : List Reading :=
  if turn.action.reads rs && source.isUsable then rs ++ [turn.files.readText source] else rs

/-- The readings of a source in some turns. -/
def readings (source : Path) (turns : List Turn) : List Reading :=
  turns.foldl (readingsAfter source) []

/-- A session that was started and has read its source some times. -/
def known (settings : Settings) (source : Path) (rs : List Reading) : Session :=
  { start settings source with store := (start settings source).store.afterReadings rs }

/-- The answer to an action that has just read the source. -/
def Action.answerAfter (s : Session) (reading : Reading) : Action → Answer
  | .ask question => .reply (question.replyFrom s.names s.settings.hints s.store.current)
  | .rebuild strict => .rebuilt (verdict s.store.path strict reading)

/-- The session follows the readings of its source, whatever happens to the files. -/
structure Follows (settings : Settings) (source : Path) (rs : List Reading) (s : Session) :
    Prop where
  eq_known : s = known settings source rs
  /-- The index is that of the last text that could be read, or empty. -/
  current_eq : s.store.current = match (texts rs).getLast? with
    | some text => Index.build settings.dialect settings.hints.blockedParameters text
    | none => []
  isBuilt_eq : s.store.isBuilt = !rs.isEmpty
  generation_eq : s.store.generation = (texts rs).length
  /-- A question that does not read the source is answered from the index, and the files do not
  matter. -/
  ask : ∀ files question, Action.reads rs (.ask question) = false →
    s.perform files (.ask question) =
      .ok (s, .reply (question.replyFrom s.names s.settings.hints s.store.current), [])
  /-- Whatever reads the source reads it once, and the answer is from the index after that. -/
  read : ∀ files action, Action.reads rs action = true → source.isUsable = true →
    ∃ notices, notices.countP Notice.isOfReading = 1 ∧
      s.perform files action =
        .ok (known settings source (rs ++ [files.readText source]),
          action.answerAfter (known settings source (rs ++ [files.readText source]))
            (files.readText source), notices)
  /-- What would read a source that has no path is refused. -/
  refused : ∀ files action, Action.reads rs action = true → source.isUsable = false →
    s.perform files action = .error .unusable
  /-- While the source cannot be read, the generation and the index stay, whatever is wanted. -/
  failed : ∀ files action fault, files.readText source = .error fault →
    (s.next ⟨files, action⟩).store.generation = s.store.generation ∧
      (s.next ⟨files, action⟩).store.current = s.store.current ∧
      (s.store.isBuilt = true → s.next ⟨files, action⟩ = s)
  /-- Once the source has been read, successfully or not, questions change nothing, and each has the
  answer of the index at hand, in whichever order and with whichever files they are asked. -/
  settled : rs ≠ [] → ∀ asked : List (FileTree × Question),
    s.after (asked.map fun p => ⟨p.1, .ask p.2⟩) = s ∧
      s.answers (asked.map fun p => ⟨p.1, .ask p.2⟩) = asked.map fun p =>
        .ok (.reply (p.2.replyFrom s.names s.settings.hints s.store.current))

/-! ## One action -/

section

variable {settings : Settings} {source : Path} {rs : List Reading} {files : FileTree}

/-- A question is answered from the index, which is ensured first if there is something to look
up. -/
theorem perform_ask (files : FileTree) (question : Question) (s : Session) :
    s.perform files (.ask question) =
      (if question.needsIndex then s.ensured files else .ok (s, [])).map fun (s, notices) =>
        (s, .reply (question.replyFrom s.names s.settings.hints s.store.current), notices) := by
  cases question with
  | index => rfl
  | hover line column =>
    have hensured : (if (Question.hover line column).needsIndex then s.ensured files
      else .ok (s, [])) = s.ensuredAt files line column := rfl
    rw [hensured, perform, hover]
    cases s.ensuredAt files line column <;> rfl
  | complete line column trigger =>
    have hneeds : (Question.complete line column trigger).needsIndex = true := rfl
    rw [hneeds, if_pos rfl, perform, complete]
    cases s.ensured files <;> rfl

theorem ensured_known (rs : List Reading) (files : FileTree) :
    (known settings source rs).ensured files =
      if rs.isEmpty then ((known settings source rs).store.rebuild files).map fun r =>
        ({ known settings source rs with store := r.store }, r.notices)
      else .ok (known settings source rs, []) := by
  have hstore : (known settings source rs).store.ensured files =
      if rs.isEmpty then
        ((known settings source rs).store.rebuild files).map fun r => (r.store, r.notices)
      else .ok ((known settings source rs).store, []) := Store.ensured_afterReadings
  rw [ensured, hstore]
  cases rs.isEmpty with
  | false => rfl
  | true => cases (known settings source rs).store.rebuild files <;> rfl

theorem rebuild_known (h : source.isUsable = true) :
    (known settings source rs).store.rebuild files =
      .ok ((known settings source rs).store.reread (files.readText source)) :=
  Store.rebuild_of_usable h

theorem known_reread (rs : List Reading) (r : Reading) :
    { known settings source rs with store := ((known settings source rs).store.reread r).store } =
      known settings source (rs ++ [r]) := by
  unfold known
  dsimp only
  rw [Store.store_reread]

/-- A question that reads nothing. -/
theorem perform_ask_known {question : Question} (h : Action.reads rs (.ask question) = false) :
    (known settings source rs).perform files (.ask question) =
      .ok (known settings source rs,
        .reply (question.replyFrom (known settings source rs).names settings.hints
          (known settings source rs).store.current), []) := by
  have hensured : (if question.needsIndex then (known settings source rs).ensured files
      else .ok (known settings source rs, [])) = .ok (known settings source rs, []) := by
    rcases Bool.and_eq_false_iff.mp h with hempty | hneeds
    · rw [ensured_known, hempty]
      exact ite_self _
    · rw [hneeds]
      rfl
  rw [perform_ask, hensured]
  rfl

/-- An action that reads the source. -/
theorem perform_known_of_reads {action : Action} (h : action.reads rs = true)
    (usable : source.isUsable = true) :
    ∃ notices, notices.countP Notice.isOfReading = 1 ∧
      (known settings source rs).perform files action =
        .ok (known settings source (rs ++ [files.readText source]),
          action.answerAfter (known settings source (rs ++ [files.readText source]))
            (files.readText source), notices) := by
  refine ⟨_, Store.countP_notices_reread (s := (known settings source rs).store)
    (files.readText source), ?_⟩
  cases action with
  | ask question =>
    obtain ⟨hempty, hneeds⟩ := Bool.and_eq_true_iff.mp h
    rw [perform_ask, hneeds, if_pos rfl, ensured_known, hempty, if_pos rfl, rebuild_known usable]
    simp only [Except.map, known_reread]
    rfl
  | rebuild strict =>
    rw [perform, rebuild_known usable]
    simp only [Except.map, known_reread, Store.outcome_reread]
    rfl

theorem perform_known_of_unusable {action : Action} (h : action.reads rs = true)
    (unusable : source.isUsable = false) :
    (known settings source rs).perform files action = .error .unusable := by
  have hrebuild : (known settings source rs).store.rebuild files = .error .unusable :=
    Store.rebuild_of_unusable unusable
  cases action with
  | ask question =>
    obtain ⟨hempty, hneeds⟩ := Bool.and_eq_true_iff.mp h
    rw [perform_ask, hneeds, if_pos rfl, ensured_known, hempty, if_pos rfl, hrebuild]
    rfl
  | rebuild strict =>
    rw [perform, hrebuild]
    rfl

/-- One turn. -/
theorem next_known (turn : Turn) :
    (known settings source rs).next turn =
      known settings source (readingsAfter source rs turn) := by
  unfold next readingsAfter
  cases hreads : turn.action.reads rs with
  | false =>
    cases haction : turn.action with
    | ask question =>
      rw [haction] at hreads
      rw [perform_ask_known hreads]
      rfl
    | rebuild strict => simp [haction, Action.reads] at hreads
  | true =>
    cases husable : source.isUsable with
    | false =>
      rw [perform_known_of_unusable hreads husable]
      rfl
    | true =>
      obtain ⟨notices, _, hperform⟩ := perform_known_of_reads hreads husable
      rw [hperform]
      rfl

/-- A reading that fails is not seen in the index, and only the first one is seen at all. -/
theorem known_concat_error (fault : ReadFault) :
    let s := known settings source rs
    let s' := known settings source (rs ++ [.error fault])
    s'.store.generation = s.store.generation ∧ s'.store.current = s.store.current ∧
      (s.store.isBuilt = true → s' = s) := by
  intro s s'
  refine ⟨congrArg List.length (texts_concat_error rs fault), ?_, ?_⟩
  · show (Store.afterReadings _ _).current = (Store.afterReadings _ _).current
    rw [Store.current_afterReadings, Store.current_afterReadings, Store.indexAfter_concat_error]
  · intro hbuilt
    have hne : rs ≠ [] := by
      rintro rfl
      exact absurd hbuilt Bool.false_ne_true
    simp only [s, s', known, Store.afterReadings_concat_error hne]

theorem next_known_of_error {action : Action} {fault : ReadFault}
    (h : files.readText source = .error fault) :
    let s := known settings source rs
    let s' := s.next ⟨files, action⟩
    s'.store.generation = s.store.generation ∧ s'.store.current = s.store.current ∧
      (s.store.isBuilt = true → s' = s) := by
  intro s s'
  have hnext : s' = known settings source (readingsAfter source rs ⟨files, action⟩) :=
    next_known _
  rw [hnext, readingsAfter, h]
  split
  · exact known_concat_error fault
  · exact ⟨rfl, rfl, fun _ => rfl⟩

/-! ## Many turns -/

theorem after_known (rs : List Reading) (turns : List Turn) :
    (known settings source rs).after turns =
      known settings source (turns.foldl (readingsAfter source) rs) := by
  induction turns generalizing rs with
  | nil => rfl
  | cons turn turns ih => rw [after, next_known, ih, List.foldl_cons]

/-- Questions to a session that has tried to read its source. -/
theorem asked_known (h : rs ≠ []) (asked : List (FileTree × Question)) :
    let s := known settings source rs
    s.after (asked.map fun p => ⟨p.1, .ask p.2⟩) = s ∧
      s.answers (asked.map fun p => ⟨p.1, .ask p.2⟩) = asked.map fun p =>
        .ok (.reply (p.2.replyFrom s.names settings.hints s.store.current)) := by
  intro s
  have hask : ∀ files question, s.perform files (.ask question) = .ok (s, _, []) :=
    fun files question => perform_ask_known (by simp [Action.reads, h])
  induction asked with
  | nil => exact ⟨rfl, rfl⟩
  | cons p asked ih =>
    have hnext : s.next ⟨p.1, .ask p.2⟩ = s := by rw [next, hask]
    rw [List.map_cons, List.map_cons, after, answers, hnext, ih.1, ih.2, hask]
    exact ⟨rfl, rfl⟩

end

/-- Whatever a session is asked and told, and whatever happens to its files, it follows the readings
of its source. -/
theorem after_follows_readings (settings : Settings) (source : Path) (turns : List Turn) :
    Follows settings source (readings source turns) ((start settings source).after turns) := by
  have hafter : (start settings source).after turns =
      known settings source (readings source turns) := after_known [] turns
  rw [hafter]
  exact
    { eq_known := rfl
      current_eq := Store.current_afterReadings
      isBuilt_eq := Store.isBuilt_afterReadings
      generation_eq := rfl
      ask := fun _ _ h => perform_ask_known h
      read := fun _ _ h usable => perform_known_of_reads h usable
      refused := fun _ _ h unusable => perform_known_of_unusable h unusable
      failed := fun _ _ _ h => next_known_of_error h
      settled := fun h asked => asked_known h asked }

/-- A first reading that fails leaves an empty index, and questions do not try again. -/
example :
    let empty : FileTree := {}
    let filled : FileTree := { top := .dir [("lib.py", .file (Utf8.encode "def f(): pass"))] }
    let s := (start {} (.ofText "lib.py")).after [⟨empty, .ask .index⟩, ⟨filled, .ask .index⟩]
    let rebuilt := s.next ⟨filled, .rebuild true⟩
    Table.keys s.store.current = [] ∧ s.store.generation = 0 ∧
      Table.keys rebuilt.store.current = (["f"] : List Text) ∧ rebuilt.store.generation = 1 := by
  decide +kernel

end Signpost.Session
