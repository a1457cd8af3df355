import RevisionControl.FileTree.Walk

/-!
# Listings

A listing has everything that can be reached from a directory by going down, through links, too. If
links lead round in a circle, it goes on through them as long as a path may.
-/

namespace RevisionControl.FileTree

open Host (Fault)

/-- An entry of a listing. -/
structure Listed where
  /-- The names that lead to it. -/
  names : List String
  /-- The content if it is a file. -/
  content : Option (List UInt8)
deriving DecidableEq, Repr

/-- What is below a location that is reached by some names from the end of a path; at most `links`
links more are gone through. -/
def listBelow (tree : FileTree) (directory : Location) (path : String) (names : List String)
    (links : Nat) (location : Location) : List Listed :=
  (tree.below location).flatMap fun (more, node) =>
    let names := names ++ more
    match node, links with
    | .directory, _ => [⟨names, none⟩]
    | .file _ content, _ => [⟨names, some content⟩]
    | .link _, 0 => [⟨names, none⟩]
    | .link _, links + 1 =>
      match tree.reach directory (Path.join path ("/".intercalate names)) with
      | .error _ => [⟨names, none⟩]
      | .ok target =>
        match tree.node? target with
        | some (.file _ content) => [⟨names, some content⟩]
        | _ => ⟨names, none⟩ :: tree.listBelow directory path names links target

/-- What is below the directory that a path leads to. -/
def list (tree : FileTree) (directory : Location) (path : String) : Except Fault (List Listed) := do
  let location ← tree.resolveDirectory directory path
  return tree.listBelow directory path [] greatestLinkCount location

end RevisionControl.FileTree
