import RevisionControl.FileTree.Walk
import RevisionControl.Text.Utf8

/-!
# Reading and writing files

A file is read and written through links. Writing to a path where nothing is makes a file there,
and so does writing through a link to where nothing is; adding to a file needs the file.
-/

namespace RevisionControl.FileTree

open Host (Fault)

/-- The content of the file that a path leads to. -/
def read (tree : FileTree) (directory : Location) (path : String) :
    Except Fault (List UInt8) := do
  match tree.node? (← tree.reach directory path) with
  | some (.file _ content) => return content
  | some .directory => .error .isADirectory
  | _ => .error .notFound

/-- The text of the file that a path leads to. -/
def readText (tree : FileTree) (directory : Location) (path : String) : Except Fault String := do
  match Text.Utf8.decode? (← tree.read directory path) with
  | .ok text => return text
  | .error _ => .error .notText

/-- Writes the content of a file, which is made if it is missing. -/
def write (tree : FileTree) (directory : Location) (path : String) (content : List UInt8) :
    Except Fault FileTree := do
  let path ← checkedPath path
  match ← tree.walk true directory path with
  | .absent parent name => return tree.insert (parent ++ [name]) (.file false content)
  | .present location =>
    match tree.node? location with
    | some (.file executable _) => return tree.insert location (.file executable content)
    | _ => .error .isADirectory

/-- Adds to the content of a file. -/
def append (tree : FileTree) (directory : Location) (path : String) (content : List UInt8) :
    Except Fault FileTree := do
  let location ← tree.reach directory path
  match tree.node? location with
  | some (.file executable before) =>
    return tree.insert location (.file executable (before ++ content))
  | _ => .error .isADirectory

end RevisionControl.FileTree
