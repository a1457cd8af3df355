import RevisionControl.FileTree.Basic

/-!
# Walking along a path

A walk goes from a directory along steps, and each step needs a directory to start from. A link
that is met is replaced by the steps of its target, so a walk ends at a node that is no link, or at
the place of an entry that is missing there; only so many links are followed. From a directory that
has been removed no step leads anywhere.

A walk is done in legs, each of which ends at the next link. Within a leg the steps become fewer,
and from leg to leg the links that may still be followed.
-/

namespace RevisionControl.FileTree

open Host (Fault)

/-- Where a walk ends. -/
inductive Arrival where
  /-- At a node that is no link. -/
  | present (location : Location)
  /-- In a directory where an entry, to which the last step leads, is missing. -/
  | absent (directory : Location) (name : String)
deriving DecidableEq, Repr

/-- Where a leg of a walk ends. -/
inductive Leg where
  /-- At the end of the walk. -/
  | arrived (arrival : Arrival)
  /-- In a directory at a link, with steps left to go behind it. -/
  | atLink (directory : Location) (target : String) (rest : List Step)
  /-- Where it cannot go on. -/
  | refused (fault : Fault)
deriving DecidableEq, Repr

/-- The greatest number of bytes of a name. -/
def greatestNameSize : Nat := 255

/-- The greatest number of links that a walk follows. -/
def greatestLinkCount : Nat := 40

/-- A leg of a walk. A walk that is to make a file (`making`) refuses a path that means a
directory. -/
def leg (tree : FileTree) (making : Bool) : Location → List Step → Leg
  | location, [] => .arrived (.present location)
  | location, step :: rest =>
    if !tree.isDirectory location then
      .refused (if (tree.node? location).isNone then .notFound else .notADirectory)
    else
      match step with
      | .here | .slash => leg tree making location rest
      | .up => leg tree making location.dropLast rest
      | .entry name =>
        if making && rest == [.slash] then .refused .isADirectory
        else if greatestNameSize < name.utf8ByteSize then .refused .nameTooLong
        else
          match tree.node? (location ++ [name]) with
          | none =>
            if rest.isEmpty then .arrived (.absent location name) else .refused .notFound
          | some (.link target) => .atLink location target rest
          | some _ => leg tree making (location ++ [name]) rest

/-- A walk that follows at most `links` links. -/
def walkWithin (tree : FileTree) (making : Bool) (links : Nat) (start : Location)
    (steps : List Step) : Except Fault Arrival :=
  match leg tree making start steps with
  | .arrived arrival => .ok arrival
  | .refused fault => .error fault
  | .atLink directory target rest =>
    match links with
    | 0 => .error .linkLoop
    | links + 1 =>
      match Path.parse? target with
      | .error fault => .error fault
      | .ok path =>
        walkWithin tree making links (if path.absolute then [] else directory)
          (path.steps ++ rest)

/-- A walk along a path, from a directory. -/
def walk (tree : FileTree) (making : Bool) (directory : Location) (path : Path) :
    Except Fault Arrival :=
  walkWithin tree making greatestLinkCount (if path.absolute then [] else directory) path.steps

/-- The location that a path leads to. -/
def resolve (tree : FileTree) (directory : Location) (path : String) : Except Fault Location := do
  let path ← Path.parse? path
  match ← tree.walk false directory path with
  | .present location => return location
  | .absent _ _ => .error .notFound

/-- The greatest number of bytes of a path by which the file system is asked for something. A path
that is only resolved may be longer. -/
def greatestPathSize : Nat := 4095

/-- The path that a text says, by which the file system is asked for something. -/
def checkedPath (path : String) : Except Fault Path := do
  let parsed ← Path.parse? path
  if greatestPathSize < path.utf8ByteSize then .error .nameTooLong else return parsed

/-- The location of what the file system is asked for by a path. -/
def reach (tree : FileTree) (directory : Location) (path : String) : Except Fault Location := do
  let _ ← checkedPath path
  tree.resolve directory path

/-- The directory that a path leads to. -/
def resolveDirectory (tree : FileTree) (directory : Location) (path : String) :
    Except Fault Location := do
  let location ← tree.reach directory path
  if tree.isDirectory location then return location else .error .notADirectory

/-- What a path leads to, if anything. -/
def nodeAt? (tree : FileTree) (directory : Location) (path : String) : Option Node :=
  match tree.resolve directory path with
  | .ok location => tree.node? location
  | .error _ => none

end RevisionControl.FileTree
