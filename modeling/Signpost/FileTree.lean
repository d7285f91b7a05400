import Signpost.Path
import Signpost.Table
import Signpost.Text.Utf8
import Signpost.Text.Lines
set_option autoImplicit false

/-!
# File trees

The files that a run can see, as a value: a tree of directories whose leaves are files with their
bytes, and whatever is locked.  There are no links, so a name leads to one place only.  Looking a
path up goes through the tree name by name, and `..` goes back up; it fails where a name is missing
or too long, or where something would have to be entered that is no directory or is locked.  A path
with a null character leads nowhere at all.
-/

namespace Signpost

open Text

/-- A directory or a file. -/
inductive Node where
  | file (bytes : List UInt8)
  | dir (entries : List (Text × Node))
  /-- A directory or a file without any permission: it may be neither entered nor opened. -/
  | locked (isDirectory : Bool)
  deriving Repr, Inhabited

namespace Node

/-- Whether a node is a directory. -/
def isDir : Node → Bool
  | .file _ => false
  | .dir _ => true
  | .locked isDirectory => isDirectory

/-- Whether a node is a file. -/
def isFile (node : Node) : Bool := !node.isDir

/-- Whether a node is locked. -/
def isLocked : Node → Bool
  | .locked _ => true
  | _ => false

/-- The entry of a directory. -/
def child? (name : Text) : Node → Option Node
  | .dir entries => Table.get? entries name
  | _ => none

end Node

/-- Why a path could not be used. -/
inductive PathFault where
  /-- A name on the way, or the last one, is missing. -/
  | missing
  /-- Something stands where a new directory should be. -/
  | alreadyThere
  /-- A name on the way is that of a file. -/
  | notDirectory
  /-- The path is that of a directory where a file is wanted. -/
  | isDirectory
  /-- Something on the way, or at its end, is locked. -/
  | denied
  /-- A name, or the whole path, is too long. -/
  | tooLong
  /-- The path has a null character. -/
  | unusable
  deriving DecidableEq, Repr, Inhabited

/-- The number that stands for a fault. -/
def PathFault.number : PathFault → Nat
  | .missing => 2
  | .denied => 13
  | .alreadyThere => 17
  | .notDirectory => 20
  | .isDirectory => 21
  | .unusable => 22
  | .tooLong => 36

/-- The words for a fault. -/
def PathFault.words : PathFault → Text
  | .missing => "No such file or directory"
  | .denied => "Permission denied"
  | .alreadyThere => "File exists"
  | .notDirectory => "Not a directory"
  | .isDirectory => "Is a directory"
  | .unusable => "Invalid argument"
  | .tooLong => "File name too long"

/-- Why a file could not be read as text. -/
inductive ReadFault where
  /-- It could not be opened. -/
  | unopened (fault : PathFault)
  /-- Its bytes are no text. -/
  | undecoded (fault : Utf8.Fault)
  deriving DecidableEq, Repr, Inhabited

/-- The wording of a fault in reading the file at a path. -/
def ReadFault.message (path : Path) : ReadFault → Text
  | .unopened f => "[Errno " ++ ofNat f.number ++ "] " ++ f.words ++ ": " ++ quoted path.text
  | .undecoded f => f.message

/-- The files and directories a run can see, and the directory it works in. -/
structure FileTree where
  top : Node := .dir []
  /-- The working directory, from the root. -/
  working : Path := ⟨.root, []⟩
  deriving Inhabited

namespace FileTree

/-- The greatest number of bytes in a name. -/
def maxNameBytes : Nat := 255

/-- The greatest number of bytes in a path. -/
def maxPathBytes : Nat := 4095

/-- How many bytes a text takes in a file system. -/
def byteLength (t : Text) : Nat := (Utf8.encode t).length

/-- Goes down names from a node; `above` are the nodes on the way back up, nearest first. -/
def walk (here : Node) (above : List Node) : List Text → Except PathFault Node
  | [] => .ok here
  | name :: names =>
    match here with
    | .file _ => .error .notDirectory
    | .locked isDirectory => .error (if isDirectory then .denied else .notDirectory)
    | .dir entries =>
      if name = Path.parentName then
        match above with
        | [] => walk here [] names
        | up :: rest => walk up rest names
      else if maxNameBytes < byteLength name then .error .tooLong
      else
        match Table.get? entries name with
        | none => .error .missing
        | some node => walk node (here :: above) names

/-- What stands at a path. -/
def find (files : FileTree) (p : Path) : Except PathFault Node :=
  if !p.isUsable then .error .unusable
  else if maxPathBytes < byteLength p.text then .error .tooLong
  else walk files.top [] (Path.join files.working p).names

/-- What stands at a path, if anything does.  Only a path that is too long, or that would have to go
through something locked, is an error. -/
def look (files : FileTree) (p : Path) : Except PathFault (Option Node) :=
  match files.find p with
  | .ok node => .ok (some node)
  | .error .tooLong => .error .tooLong
  | .error .denied => .error .denied
  | .error _ => .ok none

/-- Whether a directory stands at a path, if that can be seen. -/
def seeDir (files : FileTree) (p : Path) : Except PathFault Bool :=
  (files.look p).map fun found => found.any Node.isDir

/-- Whether a file stands at a path, if that can be seen. -/
def seeFile (files : FileTree) (p : Path) : Except PathFault Bool :=
  (files.look p).map fun found => found.any Node.isFile

/-- Whether anything stands at a path. -/
def exists? (files : FileTree) (p : Path) : Bool :=
  match files.find p with | .ok _ => true | .error _ => false

/-- Whether a directory stands at a path. -/
def isDir (files : FileTree) (p : Path) : Bool :=
  match files.find p with | .ok node => node.isDir | .error _ => false

/-- Whether a file stands at a path. -/
def isFile (files : FileTree) (p : Path) : Bool :=
  match files.find p with | .ok node => node.isFile | .error _ => false

/-- The bytes of a file. -/
def readBytes (files : FileTree) (p : Path) : Except PathFault (List UInt8) :=
  match files.find p with
  | .ok (.file bytes) => .ok bytes
  | .ok (.dir _) => .error .isDirectory
  | .ok (.locked _) => .error .denied
  | .error fault => .error fault

/-- The text of a file, with plain line breaks. -/
def readText (files : FileTree) (p : Path) : Except ReadFault Text :=
  match files.readBytes p with
  | .error fault => .error (.unopened fault)
  | .ok bytes =>
    match Utf8.decode bytes with
    | .error fault => .error (.undecoded fault)
    | .ok t => .ok (plainBreaks t)

/-- The path from the root that a path stands for. -/
def resolve (files : FileTree) (p : Path) : Path := Path.resolve files.working p

/-- The path from the root that a path stands for; one with a null character stands for none. -/
def resolveUsable (files : FileTree) (p : Path) : Except PathFault Path :=
  if p.isUsable then .ok (files.resolve p) else .error .unusable

/-! ## Changes -/

/-- Puts a node at some names below a node, making the directories on the way.  Fails where a file
or something locked is in the way. -/
def place (node : Node) : Node → List Text → Except PathFault Node
  | _, [] => .ok node
  | .file _, _ :: _ => .error .notDirectory
  | .locked isDirectory, _ :: _ => .error (if isDirectory then .denied else .notDirectory)
  | .dir entries, name :: names => do
    let below ← place node ((Table.get? entries name).getD (.dir [])) names
    .ok (.dir (Table.insert entries name below))

/-- Takes a node away. -/
def remove : Node → List Text → Node
  | .file bytes, _ => .file bytes
  | .locked isDirectory, _ => .locked isDirectory
  | node, [] => node
  | .dir entries, [name] => .dir (Table.erase entries name)
  | .dir entries, name :: names => .dir (Table.modify (remove · names) entries name)

/-- A tree with a node at a path. -/
def placeAt (files : FileTree) (p : Path) (node : Node) : Except PathFault FileTree :=
  (place node files.top (files.resolve p).names).map fun top => { files with top }

/-- A tree with a new node in a directory that is there. -/
def add (files : FileTree) (p : Path) (node : Node) : Except PathFault FileTree :=
  match files.find p.parent with
  | .ok (.dir _) => files.placeAt p node
  | .ok (.file _) => .error .notDirectory
  | .ok (.locked isDirectory) => .error (if isDirectory then .denied else .notDirectory)
  | .error fault => .error fault

/-- A tree with a file at a path; the directory that holds it has to be there. -/
def write (files : FileTree) (p : Path) (bytes : List UInt8) : Except PathFault FileTree :=
  match files.find p with
  | .ok (.file _) => files.placeAt p (.file bytes)
  | .ok (.dir _) => .error .isDirectory
  | .ok (.locked _) => .error .denied
  | .error .missing => files.add p (.file bytes)
  | .error fault => .error fault

/-- A tree with a new directory at a path; the directory that holds it has to be there. -/
def makeDir (files : FileTree) (p : Path) : Except PathFault FileTree :=
  match files.find p with
  | .ok _ => .error .alreadyThere
  | .error .missing => files.add p (.dir [])
  | .error fault => .error fault

/-- Makes a directory unless it is there. -/
def makeDirOnce (files : FileTree) (p : Path) : Except PathFault FileTree :=
  match files.makeDir p with
  | .ok files => .ok files
  | .error fault => if files.isDir p then .ok files else .error fault

/-- Makes a directory and those above it that are missing, at most `depth` of them.  What has been
made stays, also if the rest fails. -/
def makeDirsWithin : (depth : Nat) → FileTree → Path → FileTree × Option PathFault
  | depth, files, p =>
    match files.makeDirOnce p with
    | .ok files => (files, none)
    | .error .missing =>
      match depth with
      | 0 => (files, some .missing)
      | depth + 1 =>
        match makeDirsWithin depth files p.parent with
        | (files, some fault) => (files, some fault)
        | (files, none) =>
          match files.makeDirOnce p with
          | .ok files => (files, none)
          | .error fault => (files, some fault)
    | .error fault => (files, some fault)

/-- Makes a directory and those above it that are missing. -/
def makeDirs (files : FileTree) (p : Path) : FileTree × Option PathFault :=
  makeDirsWithin p.names.length files p

/-- Writes a file, and makes the directories above it that are missing. -/
def put (files : FileTree) (p : Path) (bytes : List UInt8) : FileTree × Option PathFault :=
  match files.makeDirs p.parent with
  | (files, some fault) => (files, some fault)
  | (files, none) =>
    match files.write p bytes with
    | .ok files => (files, none)
    | .error fault => (files, some fault)

/-- A tree without what stands at a path. -/
def delete (files : FileTree) (p : Path) : Except PathFault FileTree :=
  (files.find p).map fun _ => { files with top := remove files.top (files.resolve p).names }

end FileTree

end Signpost
