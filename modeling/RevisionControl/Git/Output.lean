import RevisionControl.Text.Lines

/-!
# What Git prints

The parts of Git's output that operations are after. A text that does not hold such a part gives
none.
-/

namespace RevisionControl.Git

open Text

/-! ## Revisions -/

/-- What stands behind a minus sign. -/
def behindMinus : List Char → Option (List Char)
  | '-' :: revision => some revision
  | _ => none

/-- The last revision of a listing that is marked as a boundary by a minus sign. A lone minus sign
marks none, and hides those before it. -/
def lastBoundary? (listing : String) : Option String :=
  match ((lines listing.toList).map trimChars).reverse.findSome? behindMinus with
  | none | some [] => none
  | some revision => some (String.ofList revision)

/-! ## Branches -/

/-- The part of a text before the first slash. -/
def beforeSlash (s : String) : String :=
  String.ofList (s.toList.takeWhile (· != '/'))

/-- The branch of a name that stands behind the remote and a slash. `HEAD` is no branch. -/
def branchBehindRemote? (s : String) : Option String :=
  match s.toList.dropWhile (· != '/') with
  | [] | [_] => none
  | _ :: branch => if branch = ['H', 'E', 'A', 'D'] then none else some (String.ofList branch)

/-- Drops blanks, of which there must be at least one. -/
def dropBlanks? : List Char → Option (List Char)
  | [] => none
  | c :: rest => if isBlank c then some (rest.dropWhile isBlank) else none

/-- The branch that a text starts by naming as the target of `HEAD`. -/
def headTargetHere? (cs : List Char) : Option (List Char) := do
  let cs ← "ref:".toList.isPrefixOf? cs
  let cs ← dropBlanks? cs
  let cs ← "refs/heads/".toList.isPrefixOf? cs
  let branch := cs.takeWhile (!isBlank ·)
  let cs ← dropBlanks? (cs.dropWhile (!isBlank ·))
  let _ ← "HEAD".toList.isPrefixOf? cs
  if branch.isEmpty then none else some branch

/-- The branch that a text first names as the target of `HEAD`. -/
def headTargetChars? : List Char → Option (List Char)
  | [] => none
  | c :: rest =>
    match headTargetHere? (c :: rest) with
    | some branch => some branch
    | none => headTargetChars? rest

/-- The branch that a listing of references first names as the target of `HEAD`. -/
def headTarget? (listing : String) : Option String :=
  (headTargetChars? listing.toList).map String.ofList

/-- The names that a default branch has when nothing better is known, the likelier first. -/
def usualBranches : List String := ["main", "master"]

/-- The likeliest name of a default branch in a listing of branches. -/
def usualBranch? (listing : String) : Option String :=
  usualBranches.find? (· ∈ listedNames listing)

end RevisionControl.Git
