import Signpost.Command.Arguments
import Signpost.Console.Escape
import Signpost.Console.Listing
import Signpost.Console.Page
import Signpost.Log.Router
import Signpost.Session
set_option autoImplicit false

/-!
# Runs of the command line

A run reads its arguments, does what it is asked, and ends with an exit code.  Until the settings of
a library are known, records go to the error stream from the warning level up, or all of them when
debug logging is asked for; then the settings say where they go.
-/

namespace Signpost.Command

open Text Settings

/-- An error that no message was prepared for. -/
inductive Crash where
  /-- Settings could not be loaded, for a reason that is not reported. -/
  | settings (fault : LoadFault)
  /-- A path could not be used. -/
  | path (fault : PathFault)
  /-- The tags of a printed line are wrong. -/
  | markup (fault : Console.MarkupFault)
  deriving Repr, Inhabited

/-- How a run goes on. -/
inductive Stop where
  /-- It ends with a message. -/
  | failed (message : Text)
  /-- It breaks off. -/
  | crashed (crash : Crash)
  deriving Repr, Inhabited

/-- What a run has to work with. -/
structure Run where
  surroundings : Surroundings
  router : Log.Router := {}
  sinks : Log.Sinks := {}
  verbose : Bool := false
  deriving Inhabited

/-- The result of a run. -/
structure Result where
  exitCode : Nat
  sinks : Log.Sinks
  crash : Option Crash := none
  deriving Inhabited

namespace Run

/-- The surroundings as they are now: log files belong to them. -/
def now (r : Run) : Surroundings := { r.surroundings with files := r.sinks.files }

/-- Records what there is to note. -/
def note (notices : List Notice) (r : Run) : Run :=
  { r with sinks := r.router.note .utf8 r.sinks notices }

/-- Prints a text. -/
def print (t : Text) (r : Run) : Run := { r with sinks := r.sinks.print t }

/-- Prints lines. -/
def printLines (ls : List Text) (r : Run) : Run := r.print (ls.flatMap (· ++ ['\n']))

/-- Prints lines for any reader. -/
def printPlain (ls : List Text) (r : Run) : Run := r.printLines (ls.map Console.withoutEscapes)

/-- Shows a message on the error stream. -/
def complain (message : Text) (r : Run) : Run :=
  { r with sinks := r.sinks.complain (Console.withoutEscapes message) }

/-- Why settings that could not be loaded end the run. -/
def ofLoadFault : LoadFault → Stop
  | .reported report => .failed report.line
  | fault => .crashed (.settings fault)

/-- Debug logging everywhere. -/
def verboseLogging (l : Logging) : Logging :=
  { level := .debug, outputs := l.outputs.map fun o => { o with level := none } }

/-- Why a library that could not be opened ends the run. -/
def ofOpenFault : OpenFault → Stop
  | .path fault => .crashed (.path fault)
  | .settings fault => ofLoadFault fault
  | .noLibrary report => .failed report.line

/-- A step of a run: it goes on with a value, or stops; either way what was recorded counts. -/
abbrev Step (α : Type) := Run × Except Stop α

/-- Puts the logging settings of a library into force. -/
def applyLogging (l : Logging) (r : Run) : Step Unit :=
  let (router, sinks, fault) :=
    r.router.configure (if r.verbose then verboseLogging l else l) r.sinks
  ({ r with router, sinks },
    match fault with
    | none => .ok ()
    | some fault => .error (.crashed (.path fault)))

/-- The settings and the module for a path.  A module is indexed as it is given, with the settings
of the library above it, or of its own directory if there is none. -/
def resolveSource (path : Path) (r : Run) : Step (Settings × Path) :=
  let (_, opened, notices) := openLibrary r.now path [] none
  let r := r.note notices
  match opened with
  | .ok o =>
    (r, .ok (o.settings,
      if r.now.files.isFile path then path else o.location.sourceFile))
  | .error (.noLibrary report) =>
    if r.now.files.isDir path then (r, .error (.failed report.line))
    else
      let (settings, notices) := loadNoted r.now path.parent []
      let r := r.note notices
      match settings with
      | .ok settings => (r, .ok (settings, path))
      | .error fault => (r, .error (ofLoadFault fault))
  | .error fault => (r, .error (ofOpenFault fault))

/-- Lists an index. -/
def list (source : Path) (index : Index) (asJson : Bool) (r : Run) : Step Unit :=
  if asJson then
    (r.printLines [Json.render (.map [(.str "source", .str source.text),
      (.str "index", Index.toValue index)])], .ok ())
  else
    let (shown, fault) := Console.printed (Console.listing source index)
    (r.print shown, match fault with
      | none => .ok ()
      | some fault => .error (.crashed (.markup fault)))

/-- The index command. -/
def index (path : Path) (asJson : Bool) (r : Run) : Step Unit :=
  match r.resolveSource (r.now.files.resolve path) with
  | (r, .error stop) => (r, .error stop)
  | (r, .ok (settings, source)) =>
    match r.applyLogging settings.logging with
    | (r, .error stop) => (r, .error stop)
    | (r, .ok _) =>
      let store := (Session.start settings source).store
      match store.rebuild r.now.files with
      | .error fault => (r, .error (.crashed (.path fault)))
      | .ok rebuilt =>
        let r := r.note rebuilt.notices
        match rebuilt.outcome true with
        | .error report => (r, .error (.failed report.line))
        | .ok _ => r.list source rebuilt.store.current asJson

end Run

/-- A line of a file, counted from one; or why there is none. -/
def readLine (files : FileTree) (path : Path) (line : Int) : Except Stop Text :=
  match files.readText path with
  | .error (.unopened .unusable) => .error (.crashed (.path .unusable))
  | .error fault =>
    .error (.failed ("Cannot read " ++ path.text ++ ": " ++ fault.message path))
  | .ok t =>
    let ls := lines t
    match if 1 ≤ line then ls[line.toNat - 1]? else none with
    | some l => .ok l
    | none =>
      .error (.failed ("Line " ++ ofInt line ++ " out of range: " ++ path.text ++ " has " ++
        ofNat ls.length ++ " lines"))

/-- The offset of a column that is counted from one; or the message about it.  The place after the
last character counts. -/
def toOffset (line : Text) (column : Int) : Except Text Nat :=
  if 1 ≤ column ∧ column ≤ line.length + 1 then .ok (column.toNat - 1)
  else
    .error ("Column " ++ ofInt column ++ " out of range for a " ++ ofNat line.length ++
      "-character line")

namespace Run

/-- The session for a file that is asked about. -/
def requireSession (file : Path) (r : Run) : Step Session :=
  let (_, opened, notices) := openLibrary r.now file [] none
  let r := r.note notices
  match opened with
  | .error fault => (r, .error (ofOpenFault fault))
  | .ok o =>
    match r.applyLogging o.settings.logging with
    | (r, .error stop) => (r, .error stop)
    | (r, .ok _) =>
      match hintsDisabled r.now.files file o.location o.settings.source with
      | .error fault => (r, .error (.crashed (.path fault)))
      | .ok (disabled, notices) =>
        let r := r.note notices
        if disabled then
          (r, .error (.failed ("Hints are disabled for files in the library root " ++
            o.location.root.text ++ " (source.disable_from_root)")))
        else (r, .ok (.start o.settings o.location.sourceFile))

/-- Asks a session about a position: the line, the offset in it, and the session. -/
def ask (p : Position) (r : Run) : Step (Text × Nat × Session) :=
  match readLine r.now.files p.file p.line with
  | .error stop => (r, .error stop)
  | .ok line =>
    match r.requireSession p.file with
    | (r, .error stop) => (r, .error stop)
    | (r, .ok session) =>
      match toOffset line p.column with
      | .error message => (r, .error (.failed message))
      | .ok offset => (r, .ok (line, offset, session))

end Run

/-- Hover content as data. -/
def hoverValue (h : Query.Hover) : Value :=
  .map [(.str "name", .str h.name), (.str "kind", .str h.kind.word),
    (.str "signature", .str h.signature),
    (.str "parameters", .list (h.parameters.map Parameter.toValue)),
    (.str "description", Definition.ofOptional h.description)]

namespace Run

/-- The hover command. -/
def hover (p : Position) (asJson : Bool) (r : Run) : Step Unit :=
  match r.ask p with
  | (r, .error stop) => (r, .error stop)
  | (r, .ok (line, offset, session)) =>
    match session.hover r.now.files line offset with
    | .error fault => (r, .error (.crashed (.path fault)))
    | .ok (_, content, notices) =>
      let r := r.note notices
      let shown : Text := match content, asJson with
        | some h, true => Json.render (hoverValue h) ++ "\n"
        | none, true => Json.render .null ++ "\n"
        | some h, false => Console.page h
        | none, false => "No definition found.\n"
      (r.print shown, .ok ())

/-- The complete command. -/
def complete (p : Position) (trigger : Option Text) (asJson : Bool) (r : Run) : Step Unit :=
  match r.ask p with
  | (r, .error stop) => (r, .error stop)
  | (r, .ok (line, offset, session)) =>
    match session.complete r.now.files line offset trigger with
    | .error fault => (r, .error (.crashed (.path fault)))
    | .ok (_, items, notices) =>
      let r := r.note notices
      (r.printPlain (if asJson then [Json.render (.list (items.map .str))] else items), .ok ())

/-- Does what is asked. -/
def perform (request : Request) (r : Run) : Step Unit :=
  match request with
  | .help scope => (r.print (help scope), .ok ())
  | .version => (r.printLines [programName ++ ", version " ++ version], .ok ())
  | .nothing => (r, .ok ())
  | .index path asJson => r.index path asJson
  | .hover position asJson => r.hover position asJson
  | .complete position trigger asJson => r.complete position trigger asJson

/-- The end of a run that has stopped. -/
def stopped (r : Run) : Stop → Result
  | .failed message =>
    { exitCode := 1, sinks := (r.complain ("Error: " ++ message ++ "\n")).sinks }
  | .crashed crash => { exitCode := 1, sinks := r.sinks, crash := some crash }

end Run

/-- A whole run with the given arguments; `stamp` is the time that its records bear. -/
def run (s : Surroundings) (stamp : Text) (arguments : List Text) : Result :=
  let reading := read s.files arguments
  let level : Level := if reading.verbose then .debug else .warning
  let (router, sinks, _) :=
    Log.Router.configure { stamp } (Log.Router.simple level .console) { files := s.files }
  let r : Run := { surroundings := s, router, sinks, verbose := reading.verbose }
  match reading.request with
  | .error (.usage scope fault) =>
    { exitCode := 2, sinks := (r.complain (fault.page scope)).sinks }
  | .error (.path fault) => r.stopped (.crashed (.path fault))
  | .ok .nothing => { exitCode := 2, sinks := (r.complain (help none)).sinks }
  | .ok request =>
    match r.perform request with
    | (r, .ok _) => { exitCode := 0, sinks := r.sinks }
    | (r, .error stop) => r.stopped stop

end Signpost.Command
