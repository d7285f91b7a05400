import Signpost.FileTree
import Signpost.Log.Record
set_option autoImplicit false

/-!
# Routing records

Settings that come into force decide which events become records, and attach a handler for each of
their outputs.  What this program records has to reach the level of the settings before it is passed
on at all, and once more, like everything else in the process, to be recorded; then each handler
takes what reaches its own level.  New settings take the old handlers away.  Records are appended to
what a destination holds, unless they have no line, or a file cannot hold it; then they are left out
there.  A log file is made, with the directories above it, as soon as its handler is attached.
-/

namespace Signpost.Log

open Settings

/-- Where records have gone so far. -/
structure Sinks where
  stdout : Text := []
  stderr : Text := []
  files : FileTree := {}
  /-- What was appended to which file, in order. -/
  appended : List (Path × List UInt8) := []
  deriving Inhabited

namespace Sinks

/-- Appends to a file, which is made if it is missing. -/
def appendFile (path : Path) (bytes : List UInt8) (s : Sinks) : Except PathFault Sinks :=
  let held := match s.files.readBytes path with | .ok bytes => bytes | .error _ => []
  (s.files.write path (held ++ bytes)).map fun files =>
    { s with files, appended := s.appended ++ [(path, bytes)] }

/-- The place of a log file: its path without detours. -/
def placeOf (path : Path) (s : Sinks) : Path := s.files.resolve path

/-- Shows a text on the output stream. -/
def print (t : Text) (s : Sinks) : Sinks := { s with stdout := s.stdout ++ t }

/-- Shows a text on the error stream. -/
def complain (t : Text) (s : Sinks) : Sinks := { s with stderr := s.stderr ++ t }

/-- Writes a line to a destination.  A file that cannot hold it stays as it is. -/
def put (s : Sinks) : Destination × Line → Sinks
  | (.stdout, line) => s.print line.shown
  | (.stderr, line) => s.complain line.shown
  | (.file path, line) =>
    match line.bytes? with
    | none => s
    | some bytes => match s.appendFile (s.placeOf path) bytes with | .ok s => s | .error _ => s

/-- Makes a log file ready, with the directories above it.  What has been made stays, also if the
rest fails. -/
def openFile (path : Path) (s : Sinks) : Sinks × Option PathFault :=
  match s.files.makeDirs path.parent with
  | (files, some fault) => ({ s with files }, some fault)
  | (files, none) =>
    let s := { s with files }
    match s.appendFile (s.placeOf path) [] with
    | .ok s => (s, none)
    | .error fault => (s, some fault)

/-- Makes a destination ready. -/
def openFor (s : Sinks) : Destination → Sinks × Option PathFault
  | .file path => s.openFile path
  | _ => (s, none)

end Sinks

/-- What takes records: where they go, in which form, and the lowest level that is taken. -/
structure Handler where
  destination : Destination := .stderr
  format : Format := .console
  level : Level := .warning
  deriving DecidableEq, Repr, Inhabited

namespace Handler

/-- The handler for an output; `base` is the level of the settings, for outputs that have none. -/
def ofOutput (base : Level) (o : Output) : Handler :=
  { destination := o.destination, format := o.format, level := o.level.getD base }

/-- Whether records of a level are taken. -/
def takes (h : Handler) (l : Level) : Bool := h.level.number ≤ l.number

end Handler

/-- The thresholds and handlers in force, with the stamp that records bear.  Before any settings come
into force there is no handler. -/
structure Router where
  /-- The lowest level of events of this program that are passed on. -/
  eventLevel : Level := .warning
  /-- The lowest level that is recorded, of this program's events and of plain messages. -/
  recordLevel : Level := .warning
  /-- In the order in which they were attached. -/
  handlers : List Handler := []
  stamp : Text := []
  deriving DecidableEq, Repr, Inhabited

namespace Router

variable {ε : Type} (c : Recorder ε)

/-- Whether an entry becomes a record. -/
def admits (r : Router) (e : ε) : Bool :=
  (c.isPlain e || r.eventLevel.number ≤ (c.level e).number) &&
    r.recordLevel.number ≤ (c.level e).number

/-- The records of an entry, with their destinations.  Without any handler, entries from the warning
level up are shown on the error stream. -/
def records (r : Router) (e : ε) : List (Destination × Line) :=
  if r.admits c e then
    match r.handlers with
    | [] =>
      if Level.warning.number ≤ (c.level e).number then
        (c.bareLine? r.stamp e).toList.map fun line => (.stderr, line)
      else []
    | handlers =>
      (handlers.filter (·.takes (c.level e))).filterMap fun h =>
        (c.line? r.stamp e h.format).map fun line => (h.destination, line)
  else []

/-- Records an entry. -/
def record (r : Router) (s : Sinks) (e : ε) : Sinks := (r.records c e).foldl Sinks.put s

/-- Records an entry with fields that came from outside. -/
def recordChecked (r : Router) (s : Sinks) (e : ε) : Except EntryFault Sinks :=
  match c.fault? (r.eventLevel.number ≤ (c.level e).number) e with
  | some fault => .error fault
  | none => .ok (r.record c s e)

/-- Records what there is to note, in files of some encoding. -/
def note (encoding : Text.Encoding) (r : Router) (s : Sinks) (notices : List Notice) : Sinks :=
  notices.foldl (fun s n => r.record (recorder encoding) s { event := n.event }) s

/-- Attaches handlers for outputs, in order, up to the first whose file cannot be opened. -/
def attachAll (base : Level) : List Output → Router → Sinks → Router × Sinks × Option PathFault
  | [], r, s => (r, s, none)
  | o :: rest, r, s =>
    match s.openFor o.destination with
    | (s, some fault) => (r, s, some fault)
    | (s, none) =>
      attachAll base rest { r with handlers := r.handlers ++ [Handler.ofOutput base o] } s

/-- Puts new settings into force: the old handlers go, and those of the outputs are attached. -/
def configure (r : Router) (settings : Logging) (s : Sinks) :
    Router × Sinks × Option PathFault :=
  attachAll settings.level settings.outputs
    { r with eventLevel := settings.level, recordLevel := settings.level, handlers := [] } s

/-- Settings with a single output on the error stream. -/
def simple (level : Level) (format : Format) : Logging := { level, outputs := [{ format }] }

end Router

end Signpost.Log
