import RevisionControl.Host.Fault
import RevisionControl.Text.Fields

/-!
# Paths

A path tells how to go from one place of a file tree to another: down to an entry, up to the
parent, or nowhere. It starts at the root if its text starts with a slash. A slash at its end says
that it means a directory.

A location is where an entry is, by the names that lead to it from the root down, with nothing
that would have to be followed. The text of a location is a path that goes there.
-/

namespace RevisionControl.FileTree

/-- Where an entry is: the names from the root down. -/
abbrev Location := List String

/-- The text of a location. -/
def Location.text : Location → String
  | [] => "/"
  | names => String.join (names.map ("/" ++ ·))

/-- Where a directory is that has been removed. No entry has the empty name, so that nothing is ever
found there. -/
def Location.nowhere : Location := [""]

/-- A step of a path. -/
inductive Step where
  /-- To an entry of the directory. -/
  | entry (name : String)
  /-- To the parent; the root is its own parent. -/
  | up
  /-- Nowhere, which only a directory allows. -/
  | here
  /-- Nowhere: the slash at the end of a path. -/
  | slash
deriving DecidableEq, Repr

/-- A path. -/
structure Path where
  /-- Whether it starts at the root. -/
  absolute : Bool
  /-- The steps. -/
  steps : List Step
deriving DecidableEq, Repr

namespace Path

/-- The step that a field between slashes says. -/
def stepOf (field : List Char) : Step :=
  if field = ['.'] then .here
  else if field = ['.', '.'] then .up
  else .entry (String.ofList field)

/-- The steps that the fields between slashes say. An empty field at the end is due to a slash
there; any other is due to a repeated slash, which is the same as one. -/
def stepsOf : List (List Char) → List Step
  | [] => []
  | [last] => if last.isEmpty then [.slash] else [stepOf last]
  | field :: more => if field.isEmpty then stepsOf more else stepOf field :: stepsOf more

/-- The path that a text says. The empty text says none, and no path holds the character zero. -/
def parse? (s : String) : Except Host.Fault Path :=
  match s.toList with
  | [] => .error .notFound
  | c :: rest =>
    if '\x00' ∈ c :: rest then .error .nulInPath
    else if c = '/' then .ok ⟨true, stepsOf (Text.fields '/' rest)⟩
    else .ok ⟨false, stepsOf (Text.fields '/' (c :: rest))⟩

/-- The text of a path behind another: an absolute one takes its place, and otherwise one slash
stands between the two. -/
def join (base path : String) : String :=
  if path.toList.head? = some '/' then path
  else
    match base.toList.getLast? with
    | none => path
    | some '/' => base ++ path
    | some _ => base ++ "/" ++ path

end Path

end RevisionControl.FileTree
