import Signpost.Proofs.Log.Record
import Signpost.Proofs.Log.Sinks
set_option autoImplicit false

/-!
# Routing over a whole run

Settings come into force again and again, and in between there is something to record.  The router
and the sinks that come of this (`Journal.after`) are compared with the history: each file holds
what it held at the beginning, and then what the settings that were in force at each moment had for
it (`Journal.received`).  What is recorded may be anything (`Recorder`), so the comparison does not
hang on what lines look like, nor on which of them a file can hold.

Three thresholds decide about a record: two in the router, which are both the level of the settings,
and that of the handler.  One invariant carries the comparison over every turn: the router is that
of the settings in force, and all their destinations are ready (`Journal.Follows`).  Settings come
into force with all their outputs, unless a file cannot be opened: then with those before it
(`Sinks.openable`).
-/

namespace Signpost.Log

open Settings Text

/-! ## What can happen -/

/-- New settings, or something to record at some time. -/
inductive Turn (ε : Type) where
  | configure (settings : Logging)
  | record (stamp : Text) (entry : ε)

/-- A router, and where its records have gone. -/
structure Journal where
  router : Router := {}
  sinks : Sinks := {}

section

variable {ε : Type} (c : Recorder ε)

namespace Journal

/-- The journal after a turn; an event that is refused changes nothing. -/
def next (j : Journal) : Turn ε → Journal
  | .configure settings =>
    match j.router.configure settings j.sinks with
    | (router, sinks, _) => { router, sinks }
  | .record stamp e =>
    match { j.router with stamp }.recordChecked c j.sinks e with
    | .ok sinks => { j with sinks }
    | .error _ => j

/-- The journal after some turns. -/
def after : List (Turn ε) → Journal → Journal
  | [], j => j
  | turn :: turns, j => after turns (j.next c turn)

end Journal

/-! ## What it comes to -/

/-- The outputs before the first whose destination cannot be made ready. -/
def Sinks.openable : List Output → Sinks → List Output
  | [], _ => []
  | o :: rest, s =>
    match s.openFor o.destination with
    | (_, some _) => []
    | (s, none) => o :: openable rest s

/-- What there is to record, as settings have it for the file that a path stands for: once for each
output that names the file, if the level reaches that of the settings and that of the output, which
is that of the settings if the output has none.  An event that is refused is not recorded at all,
and one without a line, or with a line that the file cannot hold, is left out. -/
def recordsFor (active : Logging) (working p : Path) (stamp : Text) (e : ε) : List (List UInt8) :=
  if (c.fault? true e).isSome then []
  else
    (active.outputs.filter fun o =>
      o.destination.isFile working p &&
        (active.level.number ≤ (c.level e).number &&
          (o.level.getD active.level).number ≤ (c.level e).number)).filterMap fun o =>
      c.bytes? stamp e o.format

namespace Turn

/-- The settings that are in force after a turn. -/
def inForce (j : Journal) (active : Logging) : Turn ε → Logging
  | .configure settings => { settings with outputs := j.sinks.openable settings.outputs }
  | .record _ _ => active

/-- The records that a turn makes for a file. -/
def recordsIn (active : Logging) (working p : Path) : Turn ε → List (List UInt8)
  | .configure _ => []
  | .record stamp e => recordsFor c active working p stamp e

end Turn

/-- The records that some turns make for a file, each under the settings in force at its time. -/
def Journal.received (working p : Path) :
    List (Turn ε) → Logging → Journal → List (List UInt8)
  | [], _, _ => []
  | turn :: turns, active, j =>
    turn.recordsIn c active working p ++
      received working p turns (turn.inForce j active) (j.next c turn)

end

/-! ## Settings that come into force -/

namespace Router

variable {r : Router} {s : Sinks}

theorem attachAll_cons_of_ready {o : Output} {s' : Sinks}
    (h : s.openFor o.destination = (s', none)) (base : Level) (rest : List Output) :
    attachAll base (o :: rest) r s =
        attachAll base rest { r with handlers := r.handlers ++ [Handler.ofOutput base o] } s' ∧
      s.openable (o :: rest) = o :: s'.openable rest := by
  rw [attachAll, Sinks.openable, h]
  exact ⟨rfl, rfl⟩

theorem attachAll_cons_of_fault {o : Output} {s' : Sinks} {fault : PathFault}
    (h : s.openFor o.destination = (s', some fault)) (base : Level) (rest : List Output) :
    attachAll base (o :: rest) r s = (r, s', some fault) ∧ s.openable (o :: rest) = [] := by
  rw [attachAll, Sinks.openable, h]
  exact ⟨rfl, rfl⟩

/-- What attaching outputs to a router comes to: those that can be opened have their handlers, after
the handlers that were there, and nothing has been written to any file. -/
structure Attached (base : Level) (outputs : List Output) (r : Router) (s : Sinks)
    (result : Router × Sinks × Option PathFault) : Prop where
  router_eq :
    result.1 = { r with handlers := r.handlers ++ (s.openable outputs).map (Handler.ofOutput base) }
  receives : s.Receives result.2.1 fun _ => []
  isReady : ∀ o ∈ s.openable outputs, result.2.1.IsReady o.destination
  eq_none_iff : result.2.2 = none ↔ s.openable outputs = outputs

theorem attached_attachAll (base : Level) (outputs : List Output) (r : Router) (s : Sinks) :
    Attached base outputs r s (attachAll base outputs r s) := by
  induction outputs generalizing r s with
  | nil =>
    have hrouter : r = { r with handlers := r.handlers ++ [] } := by rw [List.append_nil]
    exact ⟨hrouter, .refl s, by simp [Sinks.openable], by simp [attachAll, Sinks.openable]⟩
  | cons o rest ih =>
    have hreceives := s.receives_openFor o.destination
    have hready := s.isReady_openFor (d := o.destination)
    cases hopen : s.openFor o.destination with
    | mk s' fault =>
      rw [hopen] at hreceives hready
      cases fault with
      | some fault =>
        obtain ⟨hattach, hopenable⟩ := attachAll_cons_of_fault (r := r) hopen base rest
        rw [hattach]
        refine ⟨?_, hreceives, ?_, ?_⟩
        · rw [hopenable, List.map_nil, List.append_nil]
        · simp [hopenable]
        · simp [hopenable]
      | none =>
        obtain ⟨hattach, hopenable⟩ := attachAll_cons_of_ready (r := r) hopen base rest
        rw [hattach]
        have hrest := ih { r with handlers := r.handlers ++ [Handler.ofOutput base o] } s'
        refine ⟨?_, (hreceives.trans hrest.receives).congr fun _ => rfl, ?_, ?_⟩
        · rw [hrest.router_eq, hopenable, List.map_cons, List.append_assoc, List.singleton_append]
        · rw [hopenable]
          exact List.forall_mem_cons.mpr ⟨hrest.receives.isReady _ (hready rfl), hrest.isReady⟩
        · rw [hrest.eq_none_iff, hopenable, List.cons_inj_right]

/-! ## Records for a file -/

section

variable {ε : Type} {c : Recorder ε}

/-- Only handlers write to files: what is shown without any goes to the error stream. -/
theorem filter_records {e : ε} (h : r.admits c e = true) (working p : Path) :
    (r.records c e).filter (·.1.isFile working p) =
      (r.handlers.filter fun handler =>
        handler.destination.isFile working p && handler.takes (c.level e)).filterMap fun handler =>
          (c.line? r.stamp e handler.format).map fun line => (handler.destination, line) := by
  rw [records, if_pos h]
  cases r.handlers with
  | nil =>
    dsimp only
    split
    · cases c.bareLine? r.stamp e <;> rfl
    · rfl
  | cons handler rest =>
    dsimp only
    rw [List.filter_filterMap, List.filterMap_filter, List.filterMap_filter]
    refine List.filterMap_congr fun handler _ => ?_
    cases handler.takes (c.level e) <;> cases c.line? r.stamp e handler.format <;>
      simp [Option.filter]

/-- Records go to the error stream, or where a handler sends them. -/
theorem destination_of_mem_records {e : ε} {record : Destination × Line}
    (h : record ∈ r.records c e) :
    record.1 = .stderr ∨ ∃ handler ∈ r.handlers, record.1 = handler.destination := by
  unfold records at h
  split at h
  · split at h
    · split at h
      · obtain ⟨line, _, rfl⟩ := List.mem_map.mp h
        exact .inl rfl
      · exact nomatch h
    · obtain ⟨handler, hmem, hline⟩ := List.mem_filterMap.mp h
      obtain ⟨line, _, rfl⟩ := Option.map_eq_some_iff.mp hline
      exact .inr ⟨handler, List.mem_of_mem_filter hmem, rfl⟩
  · exact nomatch h

/-- A router with the thresholds and handlers of some settings. -/
structure Obeys (r : Router) (active : Logging) : Prop where
  eventLevel_eq : r.eventLevel = active.level
  recordLevel_eq : r.recordLevel = active.level
  handlers_eq : r.handlers = active.outputs.map (Handler.ofOutput active.level)

namespace Obeys

variable {active : Logging}

/-- The two thresholds of the router are one. -/
theorem admits_eq (h : r.Obeys active) (e : ε) :
    r.admits c e = decide (active.level.number ≤ (c.level e).number) := by
  rw [admits, h.eventLevel_eq, h.recordLevel_eq]
  cases c.isPlain e <;> simp

/-- What a router records in a file is what the settings have for it. -/
theorem recordsFor_eq (h : r.Obeys active) (working p : Path) (e : ε) :
    recordsFor c active working p r.stamp e =
      if (c.fault? (r.eventLevel.number ≤ (c.level e).number) e).isSome then []
      else ((r.records c e).filter (·.1.isFile working p)).filterMap (·.2.bytes?) := by
  rw [recordsFor, h.eventLevel_eq]
  by_cases hlevel : active.level.number ≤ (c.level e).number
  · have hadmits : r.admits c e = true := by rw [h.admits_eq, decide_eq_true hlevel]
    rw [filter_records hadmits, h.handlers_eq, List.filter_map, List.filterMap_map,
      List.filterMap_filterMap, decide_eq_true hlevel]
    congr 1
    refine List.filterMap_congr fun o _ => ?_
    simp [Recorder.bytes?, Handler.ofOutput, Option.map_eq_bind, Option.bind_assoc]
  · have hrefused : r.records c e = [] := by
      rw [records, h.admits_eq, decide_eq_false hlevel]
      rfl
    simp [hlevel, hrefused]

end Obeys

end

end Router

namespace Journal

open Router

/-- The router is that of the settings in force, and all their destinations are ready. -/
structure Follows (j : Journal) (active : Logging) : Prop where
  obeys : j.router.Obeys active
  isReady : ∀ o ∈ active.outputs, j.sinks.IsReady o.destination

/-- Nothing is in force at the beginning. -/
theorem follows_start (s : Sinks) : Follows { sinks := s } { outputs := [] } :=
  ⟨⟨rfl, rfl, rfl⟩, by simp⟩

variable {ε : Type} {c : Recorder ε} {j : Journal} {active : Logging}

/-- Settings that come into force leave nothing of those before them, and write nothing. -/
theorem next_configure (c : Recorder ε) (j : Journal) (active settings : Logging) :
    (j.next c (.configure settings)).Follows ((Turn.configure settings : Turn ε).inForce j active) ∧
      j.sinks.Receives (j.next c (.configure settings)).sinks fun _ => [] := by
  have hattached := attached_attachAll settings.level settings.outputs
    { j.router with eventLevel := settings.level, recordLevel := settings.level, handlers := [] }
    j.sinks
  refine ⟨⟨?_, hattached.isReady⟩, hattached.receives⟩
  have hrouter : (j.next c (.configure settings)).router = _ := hattached.router_eq
  rw [hrouter]
  exact ⟨rfl, rfl, rfl⟩

/-- Whatever is recorded, it is written to destinations that are ready. -/
theorem Follows.isReady_records (h : j.Follows active) {r : Router} (hr : r.Obeys active) {e : ε} :
    ∀ record ∈ r.records c e, j.sinks.IsReady record.1 := by
  intro record hrecord
  rcases destination_of_mem_records hrecord with hstderr | ⟨handler, hmem, hdestination⟩
  · rw [hstderr]
    trivial
  · rw [hr.handlers_eq] at hmem
    obtain ⟨o, ho, rfl⟩ := List.mem_map.mp hmem
    rw [hdestination]
    exact h.isReady o ho

/-- What is recorded goes where the settings in force say. -/
theorem Follows.next_record (h : j.Follows active) (stamp : Text) (e : ε) :
    (j.next c (.record stamp e)).Follows active ∧
      j.sinks.Receives (j.next c (.record stamp e)).sinks fun p =>
        (recordsFor c active j.sinks.files.working p stamp e).flatten := by
  have hobeys : ({ j.router with stamp } : Router).Obeys active :=
    ⟨h.obeys.eventLevel_eq, h.obeys.recordLevel_eq, h.obeys.handlers_eq⟩
  have hrecords := fun p => hobeys.recordsFor_eq (c := c) j.sinks.files.working p e
  unfold next recordChecked
  dsimp only at hrecords ⊢
  cases hfault : c.fault? (j.router.eventLevel.number ≤ (c.level e).number) e with
  | some fault =>
    refine ⟨h, (Sinks.Receives.refl j.sinks).congr fun p => ?_⟩
    rw [hrecords, hfault]
    rfl
  | none =>
    have hreceives := Sinks.receives_foldl_put _ (h.isReady_records (c := c) hobeys (e := e))
    refine ⟨⟨h.obeys, fun o ho => hreceives.isReady _ (h.isReady o ho)⟩,
      hreceives.congr fun p => ?_⟩
    rw [hrecords, hfault]
    rfl

/-- One turn keeps the router to the settings in force, and makes the records that these want. -/
theorem Follows.next (h : j.Follows active) (turn : Turn ε) :
    (j.next c turn).Follows (turn.inForce j active) ∧
      j.sinks.Receives (j.next c turn).sinks fun p =>
        (turn.recordsIn c active j.sinks.files.working p).flatten := by
  cases turn with
  | configure settings => exact next_configure c j active settings
  | record stamp e => exact h.next_record stamp e

/-- So does a whole run. -/
theorem Follows.receives_after (h : j.Follows active) (turns : List (Turn ε)) :
    j.sinks.Receives (after c turns j).sinks fun p =>
      (received c j.sinks.files.working p turns active j).flatten := by
  induction turns generalizing j active with
  | nil => exact .refl j.sinks
  | cons turn turns ih =>
    obtain ⟨hfollows, hturn⟩ := h.next (c := c) turn
    refine (hturn.trans (ih hfollows)).congr fun p => ?_
    rw [hturn.working_eq, received, List.flatten_append]

/-- Settings come into force as they are if and only if none of their files fails to open. -/
theorem inForce_configure_eq_iff (j : Journal) (active settings : Logging) :
    (Turn.configure settings : Turn ε).inForce j active = settings ↔
      (j.router.configure settings j.sinks).2.2 = none := by
  rw [configure, (attached_attachAll _ _ _ _).eq_none_iff, Turn.inForce]
  exact ⟨fun h => congrArg Logging.outputs h, fun h => by rw [h]⟩

/-- Over every run, each file has received what the settings in force at each moment had for it, in
order, after what it held before; the settings in force are those that were last configured, with
all their outputs if all files could be opened, and a file can be opened where there is room for it.
An entry is left out of a file only if it has no line, or has a line to read that is not in the
encoding of the file; and nothing that this program notes is refused. -/
theorem held_after (c : Recorder ε) (start : Sinks) (turns : List (Turn ε)) (p : Path) :
    (after c turns { sinks := start }).sinks.held p =
        start.held p ++
          (received c start.files.working p turns { outputs := [] } { sinks := start }).flatten ∧
      (∀ (j : Journal) (active settings : Logging),
        (Turn.configure settings : Turn ε).inForce j active = settings ↔
          (j.router.configure settings j.sinks).2.2 = none) ∧
      (∀ (s : Sinks) (path : Path), s.files.HasRoomFor path → (s.openFor (.file path)).2 = none) ∧
      (∀ (encoding : Encoding) (stamp : Text) (e : Entry) (format : Format),
        ((recorder encoding).bytes? stamp e format).isSome = true ↔
          hasLine stamp e.event format = true ∧
            (format = .console →
              (encoding.encode? (consoleLine stamp e.event ++ ['\n'])).isSome = true)) ∧
      ∀ (n : Notice) (recorded : Bool), fault? recorded n.event.fields = none :=
  ⟨((follows_start start).receives_after turns).held_eq p, inForce_configure_eq_iff,
    fun _ _ => Sinks.openFor_of_hasRoomFor, isSome_bytes?_iff, fault?_notice⟩

/-- Three events reach the level of the settings and of the only output.  One has a character that
the encoding of the file does not have, one has a field that no event may have, and only the last
one is in the file afterwards. -/
theorem held_after_left_out :
    let log : Path := ⟨.root, ["log"]⟩
    let settings : Logging := { level := .info, outputs := [{ destination := .file log }] }
    let happens (name : Text) (fields : Table Text Value) : Entry :=
      { event := { name, level := .info, logger := "l", fields } }
    let entries := [happens "Ω" [], happens "e" [("self", .str "x")], happens "o" []]
    (∀ e ∈ entries, settings.level.number ≤ e.event.level.number) ∧
      some ((after (recorder .latin1) (.configure settings :: entries.map (.record "1"))
          {}).sinks.held log) =
        Encoding.latin1.encode? (line "1" (happens "o" []).event .console ++ ['\n']) := by
  decide +kernel

/-- Two outputs come to one file by different paths, and one of them takes errors only.  After other
settings have come into force the file gets nothing more. -/
example :
    let log : Path := ⟨.root, ["log"]⟩
    let again : Path := ⟨.root, ["new", Path.parentName, "log"]⟩
    let settings : Logging :=
      { level := .info
        outputs := [{ destination := .file log, format := .json },
          { destination := .file again, level := some .error }] }
    let happens (level : Level) : Entry := { event := { name := "e", level, logger := "l" } }
    let written (stamp : Text) (level : Level) (format : Format) : List UInt8 :=
      Utf8.encode (line stamp (happens level).event format ++ ['\n'])
    received (recorder .utf8) ⟨.root, []⟩ log
        [.configure settings, .record "1" (happens .info), .record "2" (happens .error),
          .configure { outputs := [] }, .record "3" (happens .error)] { outputs := [] } {} =
      [written "1" .info .json, written "2" .error .json, written "2" .error .console] := by
  decide +kernel

end Journal

end Signpost.Log
