import Signpost.Command.Footprint
import Signpost.Command.Run
import Signpost.Log.Stamp
import Std.Time.Format
set_option autoImplicit false

/-!
# The command line

The program around `Command.run`: it takes the arguments, the environment, the files that the run
may look at and the time from the outside, and hands back what the run printed, what it logged to
files and its exit code.
-/

open Signpost Signpost.Command

/-- The variables of this process. -/
def readEnvironment : IO Settings.Environment := do
  let bytes ← IO.FS.readBinFile "/proc/self/environ"
  let entries := Text.splitAtEach (·.toNat == 0) ((String.fromUTF8? bytes).getD "").toList
  return entries.filterMap fun e =>
    match Text.cutAt '=' e with
    | (name, some value) => some (name, value)
    | (_, none) => none

/-- The home directories of the users of this system, by their names. -/
def readHomes : IO (Table Text Path) := do
  let users ← (IO.FS.readFile "/etc/passwd").toBaseIO
  let lines := Text.splitAtEach (· == '\n') (users.toOption.getD "").toList
  return lines.filterMap fun line =>
    match Text.splitAtEach (· == ':') line with
    | name :: _ :: _ :: _ :: _ :: home :: _ => some (name, Path.ofText home)
    | _ => none

/-- A tree with what stands at a path outside, if anything does. -/
def lookAt (files : FileTree) (p : Path) : IO FileTree := do
  return match ← (IO.FS.readBinFile p.text.toString).toBaseIO with
    | .ok bytes => (files.put p bytes.toList).1
    | .error (.inappropriateType _ 21 _) => (files.makeDirs p).1
    | .error _ => files

/-- The surroundings of this process, as far as a run with the given arguments may look at them. -/
def readSurroundings (arguments : List Text) : IO Settings.Surroundings := do
  let environment ← readEnvironment
  let here ← IO.currentDir
  let home := Path.ofText ((Table.get? environment "HOME".toList).getD ['/'])
  let mut s : Settings.Surroundings :=
    { files := { working := Path.ofText s!"{here}".toList }
      environment
      home := { own := home, others := ← readHomes }
      userSettings := home.join (Path.ofText ".config/defhint/config.yaml".toList) }
  for _ in [0:rounds] do
    let mut files := s.files
    for p in footprint s arguments do
      files ← lookAt files p
    s := { s with files }
  return s

/-- Appends to a file outside, and makes the directories above it. -/
def appendOutside (p : Path) (bytes : List UInt8) : IO Unit := do
  IO.FS.createDirAll p.parent.text.toString
  let handle ← IO.FS.Handle.mk p.text.toString .append
  handle.write (ByteArray.mk bytes.toArray)

/-- What is shown when a run breaks off. -/
def crashMessage : Crash → String
  | .settings (.environment name) => (Settings.environmentMessage name).toString
  | .settings (.reported report) => report.line.toString
  | .settings .keyNotText => "keywords must be strings"
  | .settings .noHome => "Could not determine home directory."
  | .settings (.unreadable _) => "a settings file could not be read"
  | .settings .unrepresentable => "a settings file holds a character or number out of range"
  | .settings .unshowable => "a refused setting is too long to be shown"
  | .settings .unfollowed => "a settings file or a variable holds data of an unknown kind"
  | .path fault => fault.words.toString
  | .markup .unmatched => "a closing tag matches no open tag"
  | .markup .payload => "the data of a tag cannot be read"
  | .markup .notNumber => "a colour has a part that is no number"

/-- The program. -/
def main (arguments : List String) : IO UInt32 := do
  let arguments := arguments.map String.toList
  let s ← readSurroundings arguments
  let now ← Std.Time.Timestamp.now
  let result := run s (Log.stampOf now.toSecondsSinceUnixEpoch.val.toNat) arguments
  for (p, bytes) in result.sinks.appended do
    appendOutside p bytes
  IO.print result.sinks.stdout.toString
  IO.eprint result.sinks.stderr.toString
  if let some crash := result.crash then
    IO.eprintln (crashMessage crash)
  return result.exitCode.toUInt32
