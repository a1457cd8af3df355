import RevisionControl.FileTree.Path

/-!
# File trees

A file tree has a node at each of its locations. The root is always a directory. Nothing asks that
the parent of an entry be a directory: an entry of which it is not is simply never reached, since
whoever walks to it finds a parent that is none.
-/

namespace RevisionControl

namespace FileTree

/-- What is at a location. -/
inductive Node where
  /-- A directory. -/
  | directory
  /-- A file with its content. -/
  | file (executable : Bool) (content : List UInt8)
  /-- A symbolic link to a path. -/
  | link (target : String)
deriving DecidableEq, Repr

end FileTree

open FileTree in
/-- The entries of a file system. -/
structure FileTree where
  /-- The nodes, the root left out. Of two at one location the first counts. -/
  entries : List (Location × Node)
deriving Repr

namespace FileTree

/-- The tree with nothing in it. -/
def empty : FileTree := ⟨[]⟩

instance : EmptyCollection FileTree := ⟨empty⟩

/-- What is at a location. -/
def node? (tree : FileTree) : Location → Option Node
  | [] => some .directory
  | location => tree.entries.lookup location

/-- Puts a node at a location, in place of what is there. -/
def insert (tree : FileTree) (location : Location) (node : Node) : FileTree :=
  ⟨(location, node) :: tree.entries.filter (·.1 != location)⟩

/-- Removes what is at a location and below. -/
def erase (tree : FileTree) (location : Location) : FileTree :=
  ⟨tree.entries.filter fun entry => !location.isPrefixOf entry.1⟩

/-- Whether there is a directory at a location. -/
def isDirectory (tree : FileTree) (location : Location) : Bool :=
  tree.node? location == some .directory

/-- Whether there is a file at a location. -/
def isFile (tree : FileTree) (location : Location) : Bool :=
  match tree.node? location with
  | some (.file ..) => true
  | _ => false

/-- What is below a location, by the names from there down. -/
def below (tree : FileTree) (location : Location) : List (Location × Node) :=
  tree.entries.filterMap fun (path, node) =>
    if location.isPrefixOf path && path.length > location.length then
      some (path.drop location.length, node)
    else none

end FileTree

end RevisionControl
