import RevisionControl.WorkingCopy

/-!
# Finding the working copy around a path

The root of a working copy is found by going upwards from a path until a directory holds the mark
of a tool: a directory for Mercurial, a directory or a file for Git. Where both are, it is
Mercurial's.
-/

namespace RevisionControl

open FileTree

/-- A location and those above it, the root last. -/
def FileTree.Location.upwards : Location → List Location
  | [] => [[]]
  | name :: rest => (Location.upwards rest).map (name :: ·) ++ [[]]

/-- The tool whose mark a directory holds. -/
def markedBy? (files : FileTree) (directory : Location) : Option Tool :=
  if files.nodeAt? directory Tool.hg.mark = some .directory then some .hg
  else if (files.nodeAt? directory Tool.git.mark).isSome then some .git
  else none

/-- The root of the closest working copy from a directory upwards, and its tool. -/
def closestRoot? (files : FileTree) (directory : Location) : Option (Location × Tool) :=
  directory.upwards.findSome? fun place => (markedBy? files place).map (place, ·)

/-- The root of the working copy that a path lies in, and its tool. -/
def findRoot (host : Host) (path : String) : Except Error (Location × Tool) :=
  match host.files.resolve host.directory path with
  | .error _ => .error (.repositoryNotFound path)
  | .ok location =>
    let directory := if host.files.isFile location then location.dropLast else location
    match closestRoot? host.files directory with
    | none => .error (.repositoryNotFound path)
    | some found => .ok found

/-- The working copy that a path lies in. -/
def WorkingCopy.discover (host : Host) (path : String) : Except Error WorkingCopy := do
  let (root, tool) ← findRoot host path
  WorkingCopy.bind host tool root.text

end RevisionControl
