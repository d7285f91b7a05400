import Signpost.Settings.Load
set_option autoImplicit false

/-!
# Footprints

Which paths a run may look at.  A run sees its files as one tree, which is taken from the outside
before it starts.  What it looks at depends on settings, and those are in files, so the tree is
grown in rounds: first the settings files, then the libraries and log files that the settings name.
-/

namespace Signpost.Command

open Settings

/-- The paths that an argument may stand for, and those on the way to them. -/
def pathsOfArgument (s : Surroundings) (argument : Text) : List Path :=
  let p := Path.ofText argument
  (Path.join s.files.working p).ancestors.map s.files.resolve ++ (s.files.resolve p).ancestors

/-- What a run may look at because of settings: the library that they name in each of the given
directories, and the log files with the directories above them. -/
def pathsOfSettings (directories : List Path) (settings : Settings) : List Path :=
  directories.map (fun d =>
      (d.child settings.source.libraryDir).child settings.source.entryFile) ++
    settings.logging.outputs.flatMap fun o =>
      match o.destination with
      | .file path => path.ancestors
      | _ => []

/-- The paths that a run with the given arguments may look at, as far as what is known of its
surroundings tells. -/
def footprint (s : Surroundings) (arguments : List Text) : List Path :=
  let directories := ((['.'] :: arguments).flatMap (pathsOfArgument s)).eraseDups
  let loaded := directories.filterMap fun d => (load s d []).toOption
  s.userSettings :: directories ++ directories.map librarySettings ++
    loaded.eraseDups.flatMap (pathsOfSettings directories)

/-- How many rounds find everything. -/
def rounds : Nat := 3

end Signpost.Command
