import Signpost.Json
import Signpost.NameSet
import Signpost.Notice
import Signpost.Text.Encoding
set_option autoImplicit false

/-!
# Records

The line that an event becomes in the log: a line to read, with the fields in the order of their
names, or an object on one line.  In a line to read some fields have a place of their own: a second
logger stands beside the first, and what is known about a failure follows on lines of its own.
Where nothing has been set up to take records, severe events are still shown as they are.

Not every event has a line: a value may be too long to be shown, and what is known about a failure
has to be a text.  Nor has every line a place in every file (`Line.bytes?`).
-/

namespace Signpost.Log

open Text

/-- Something to record: an event of this program, or a message from another part of the process. -/
structure Entry where
  event : Event
  /-- Whether it came as a plain message. -/
  isPlain : Bool := false
  deriving Repr, Inhabited

/-- Puts a field into its place among fields in the order of their names. -/
def insertField (f : Text × Value) : Table Text Value → Table Text Value
  | [] => [f]
  | g :: rest => if Text.precedes f.1 g.1 then f :: g :: rest else g :: insertField f rest

/-- Fields in the order of their names. -/
def sortFields (fields : Table Text Value) : Table Text Value :=
  fields.foldl (fun sorted f => insertField f sorted) []

/-- Why an event cannot be recorded. -/
inductive EntryFault where
  /-- A field has a name that is already taken. -/
  | nameTaken
  /-- A field that should hold an earlier record holds something else. -/
  | notRecord
  deriving DecidableEq, Repr, Inhabited

/-- The field that holds an earlier record. -/
def recordField : Text := "_record"

/-- The fields that are never shown. -/
def hiddenFields : List Text := [recordField, "_from_structlog"]

/-- Names that no field may have. -/
def takenNames : List Text := ["event", "self"]

/-- A name that no field of an event that is recorded may have. -/
def takenWhenRecorded : Text := "method_name"

/-- What is wrong with the fields of an event, if anything is; `recorded` says whether its level is
high enough for it to be recorded. -/
def fault? (recorded : Bool) (fields : Table Text Value) : Option EntryFault :=
  if fields.any fun f => takenNames.contains f.1 then some .nameTaken
  else if !recorded then none
  else if Table.contains fields takenWhenRecorded then some .nameTaken
  else
    match Table.get? fields recordField with
    | none => none
    | some .null => none
    | some _ => some .notRecord

/-- The part of the program that a record names; what is recorded without one counts as the root. -/
def loggerOf (e : Event) : Text := if e.logger.isEmpty then "root" else e.logger

/-- The fields of a record: those of the event, then what every event has. -/
def fieldsOf (stamp : Text) (e : Event) : Table Text Value :=
  Table.update e.fields
    [("event", .str e.name), ("level", .str e.level.word), ("logger", .str (loggerOf e)),
     ("timestamp", .str stamp)]

/-- A record as data. -/
def toValue (fields : Table Text Value) : Value := .map (fields.map fun f => (.str f.1, f.2))

/-- The fields that are shown. -/
def shownFields (stamp : Text) (e : Event) : Table Text Value :=
  (fieldsOf stamp e).filter fun f => !hiddenFields.contains f.1

/-- Whether a text has to be quoted in a line to read. -/
def needsQuotes (t : Text) : Bool :=
  t.any fun c => [' ', '\t', '=', '\r', '\n', '"', '\''].contains c

/-- A value in a line to read. -/
def shownValue : Value → Text
  | .str t => if needsQuotes t then quoted t else t
  | v => v.shown

/-- One field in a line to read. -/
def shownField (f : Text × Value) : Text := f.1 ++ '=' :: shownValue f.2

/-- The field that names a second logger. -/
def secondLogger : Text := "logger_name"

/-- The fields about a failure: where it happened, what was raised, and whether it is to be
shown. -/
def failureFields : List Text := ["stack", "exception", "exc_info"]

/-- The names of fields that have a place of their own. -/
def placedNames : List Text :=
  ([[], "event", "level", "logger", "timestamp", secondLogger] : List Text) ++ failureFields

/-- The parts of a line to read: a field without a name, what every event has, a second logger, and
the other fields in the order of their names. -/
def parts (stamp : Text) (e : Event) : List Text :=
  let fields := shownFields stamp e
  let bracketed (t : Text) : Text := '[' :: (t ++ [']'])
  ((Table.get? fields []).map fun v => shownField ([], v)).toList ++
    [stamp, bracketed e.level.word, e.name, bracketed (loggerOf e)] ++
    ((Table.get? fields secondLogger).map fun v => bracketed v.text).toList ++
    (sortFields (fields.filter fun f => !placedNames.contains f.1)).map shownField

/-- A field that is there and holds something. -/
def present? (e : Event) (name : Text) : Option Value :=
  match Table.get? e.fields name with
  | some .null => none
  | other => other

/-- Whether a value counts as true. -/
def holds : Value → Bool
  | .null => false
  | .bool b => b
  | .int i => i != 0
  | .str t => !t.isEmpty
  | .list items => !items.isEmpty
  | .map entries => !entries.isEmpty

/-- The rule between where a failure happened and what was raised. -/
def failureRule : Text := "\n\n" ++ List.replicate 79 '=' ++ "\n"

/-- What follows the line to read: where a failure happened, and what was raised. -/
def failure (e : Event) : Text :=
  let raised := present? e "exception"
  let asked := (present? e "exc_info").any holds
  (match present? e "stack" with
    | none => []
    | some v => '\n' :: v.text ++ if asked || raised.isSome then failureRule else []) ++
  (match raised with
    | none => []
    | some v => '\n' :: v.text)

/-- The line to read: its parts, without empty ones, and what is known about a failure. -/
def consoleLine (stamp : Text) (e : Event) : Text :=
  joinWith [' '] ((parts stamp e).filter fun p => !p.isEmpty) ++ failure e

/-- The line that an output of the given form gets. -/
def line (stamp : Text) (e : Event) : Settings.Format → Text
  | .json => Json.render (toValue (shownFields stamp e))
  | .console => consoleLine stamp e

/-- Whether a value is a text. -/
def isText : Value → Bool
  | .str _ => true
  | _ => false

/-- The fields about a failure that are shown as they are. -/
def failureTexts : List Text := ["stack", "exception"]

/-- Whether an event can be written as a line: all values that are shown can be, and in a line to
read what is known about a failure is a text. -/
def hasLine (stamp : Text) (e : Event) : Settings.Format → Bool
  | .json => (shownFields stamp e).all fun f => f.2.isShowable
  | .console =>
    ((shownFields stamp e).all fun f => failureFields.contains f.1 || f.2.isShowable) &&
      failureTexts.all fun name => (present? e name).all isText

/-- The line shown when nothing takes records; none, if a value is too long to be shown. -/
def bareLine? (stamp : Text) (e : Entry) : Option Text :=
  if e.isPlain then some e.event.name
  else
    let shown := toValue (fieldsOf stamp e.event)
    if shown.isShowable then some shown.shown else none

/-! ## Any kind of record -/

/-- A line that is ready to be written. -/
structure Line where
  /-- What a stream shows. -/
  shown : Text
  /-- What a file receives; nothing, if it cannot hold the line. -/
  bytes? : Option (List UInt8)
  deriving DecidableEq, Repr, Inhabited

/-- What is known of things that can be recorded, whatever they are. -/
structure Recorder (ε : Type) where
  level : ε → Level
  /-- Whether something came as a plain message, and not from this program. -/
  isPlain : ε → Bool
  /-- Why something is refused; `recorded` says whether its level is high enough for it to be
  recorded. -/
  fault? : (recorded : Bool) → ε → Option EntryFault
  /-- The line in an output of the given form, if there is one. -/
  line? : (stamp : Text) → ε → Settings.Format → Option Line
  /-- The line shown when nothing takes records. -/
  bareLine? : (stamp : Text) → ε → Option Line

/-- What a file receives in a given form. -/
def Recorder.bytes? {ε : Type} (c : Recorder ε) (stamp : Text) (e : ε) (format : Settings.Format) :
    Option (List UInt8) :=
  (c.line? stamp e format).bind Line.bytes?

/-- A text as a line of its own, in files of some encoding. -/
def Line.ofText (encoding : Encoding) (t : Text) : Line :=
  { shown := t ++ ['\n'], bytes? := encoding.encode? (t ++ ['\n']) }

/-- Entries, as they are recorded where files have some encoding. -/
def recorder (encoding : Encoding) : Recorder Entry where
  level e := e.event.level
  isPlain e := e.isPlain
  fault? recorded e := Log.fault? recorded e.event.fields
  line? stamp e format :=
    if hasLine stamp e.event format then some (.ofText encoding (line stamp e.event format))
    else none
  bareLine? stamp e := (Log.bareLine? stamp e).map (.ofText encoding)

end Signpost.Log
