import RevisionControl.FileTree.Content

/-!
# Making entries

Entries are made one after the other, each with the directories above it as far as they are
missing. What cannot be made, because a file or a link is in the way, is left out. The directory
that paths start in may be removed on the way; it does not come back when another one is made at
its place.
-/

namespace RevisionControl.FileTree

/-- An entry to make, or to remove. -/
inductive Making where
  /-- A directory, if nothing is at its place yet. -/
  | directory (path : String)
  /-- A directory; a file or a link at its place gives way. -/
  | ownDirectory (path : String)
  /-- A file with its content. -/
  | file (path : String) (content : List UInt8)
  /-- A symbolic link. -/
  | link (path target : String)
  /-- Nothing: a file, a link or a directory with all that is in it is removed. -/
  | removal (path : String)
deriving DecidableEq, Repr

/-- Goes along steps from a directory and makes the directories that are missing on the way, as far
as that can be done; gives the directory where the steps lead, if all could be gone. -/
def makeWay (tree : FileTree) : Location → List Step → FileTree × Option Location
  | location, [] => (tree, if tree.isDirectory location then some location else none)
  | location, step :: rest =>
    match tree.walkWithin false greatestLinkCount location [step] with
    | .ok (.present next) => makeWay tree next rest
    | .ok (.absent parent name) =>
      if parent = location ∧ step = .entry name then
        makeWay (tree.insert (parent ++ [name]) .directory) (parent ++ [name]) rest
      else (tree, none)
    | .error _ => (tree, none)

/-- The steps of a path before the last name in it, and that name. -/
def splitLast : List Step → List Step × Option String
  | [] => ([], none)
  | [.entry name] | [.entry name, .slash] => ([], some name)
  | step :: rest => let (before, last) := splitLast rest; (step :: before, last)

/-- Makes the way to the place that a path says, and puts something there. -/
def makeEntry (tree : FileTree) (directory : Location) (path : String)
    (put : FileTree → Location → FileTree) : FileTree :=
  match Path.parse? path with
  | .error _ => tree
  | .ok parsed =>
    let (before, last) := splitLast parsed.steps
    match tree.makeWay (if parsed.absolute then [] else directory) before, last with
    | (tree, some parent), some name =>
      if greatestNameSize < name.utf8ByteSize then tree else put tree (parent ++ [name])
    | (tree, _), _ => tree

/-- Makes a directory where nothing is. -/
def insertDirectory (tree : FileTree) (location : Location) : FileTree :=
  if (tree.node? location).isNone then tree.insert location .directory else tree

/-- Whether a path ends with a slash, so that it means what a link at its end leads to. -/
def endsWithSlash (path : String) : Bool := path.toList.getLast? == some '/'

/-- Makes one entry; paths start in the given directory. -/
def make (tree : FileTree) (directory : Location) : Making → FileTree
  | .directory path => tree.makeEntry directory path insertDirectory
  | .ownDirectory path => tree.makeEntry directory path fun tree location =>
      if tree.isDirectory location || endsWithSlash path then tree.insertDirectory location
      else tree.insert location .directory
  | .file path content => tree.makeEntry directory path fun tree _ =>
      match tree.write directory path content with
      | .ok tree => tree
      | .error _ => tree
  | .link path target => tree.makeEntry directory path fun tree location =>
      tree.insert location (.link target)
  | .removal path => tree.makeEntry directory path erase

/-- Where a directory is by now: nowhere if it has been removed. -/
def whereabouts (tree : FileTree) (directory : Location) : Location :=
  if tree.isDirectory directory then directory else .nowhere

/-- Makes entries in order, and tells where the directory is then. -/
def makeAll (tree : FileTree) (directory : Location) : List Making → FileTree × Location
  | [] => (tree, directory)
  | making :: more =>
    let tree := tree.make directory making
    tree.makeAll (tree.whereabouts directory) more

end RevisionControl.FileTree
