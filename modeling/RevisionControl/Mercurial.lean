import RevisionControl.Launcher
import RevisionControl.Remote

/-!
# Operations on Mercurial working copies

Each operation asks Mercurial once, the base revision perhaps twice. The current bookmark is read
from the file that Mercurial keeps it in, and the default branch has a fixed name; neither needs a
process.
-/

namespace RevisionControl.Mercurial

open Text

/-- The template for the number of a revision. -/
def nodeTemplate : String := "\x7bnode\x7d"

/-- The head revision. -/
def headRevision (hg : Launcher) : HostM Error String :=
  hg.runTrimmed ["log", "-r", ".", "-T", nodeTemplate]

/-- The revision that the current work started from: the last public ancestor, or the head
revision. -/
def baseRevision (hg : Launcher) : HostM Error String := do
  let base ← hg.runTrimmed
    ["log", "-r", "last(ancestors(.) and public())", "-T", nodeTemplate]
  if base.isEmpty then headRevision hg else return base

/-- The file with the name of the current bookmark. -/
def bookmarkFile (root : String) : String :=
  FileTree.Path.join (FileTree.Path.join root ".hg") "bookmarks.current"

/-- A text without the line ends that close it. -/
def withoutLineEnds (s : String) : String :=
  String.ofList (s.toList.reverse.dropWhile (fun c => c == '\r' || c == '\n')).reverse

/-- The current bookmark, if there is one. -/
def branch? (hg : Launcher) : HostM Error (Option String) := do
  match ← Host.outcome (Host.readText (bookmarkFile hg.root)) with
  | .ok content =>
    let name := withoutLineEnds content
    return if name.isEmpty then none else some name
  | .error .notFound => return none
  | .error fault => throw (.io fault)

/-- The remote that is meant, of those listed. -/
def remoteName (hg : Launcher) : HostM Error String := do
  let listing ← hg.run ["paths", "--quiet"]
  ExceptT.mk (pure (chooseListedRemote listing Tool.hg.usualRemote))

/-- The default branch. -/
def defaultBranch : HostM Error String :=
  return "default"

/-- The address of a remote. -/
def url (hg : Launcher) (remote : Option String) : HostM Error String :=
  hg.runTrimmed ["path", "-T", "\x7burl\x7d", remote.getD Tool.hg.usualRemote]

/-- The message of a revision. -/
def commitMessage (hg : Launcher) (revision : Option String) : HostM Error String :=
  hg.run ["log", "-r", revision.getD ".", "-T", "\x7bdesc\x7d"]

/-- Whether nothing has been changed. Files that are not tracked or ignored count if asked for. -/
def isClean (hg : Launcher) (untracked ignored : Bool) : HostM Error Bool := do
  let output ← hg.run
    (["status", "--modified", "--added", "--removed", "--deleted"] ++
      (if untracked then ["--unknown"] else []) ++ if ignored then ["--ignored"] else [])
  return isBlankText output

/-- Goes to a revision, unless changes that have not been committed would be lost. -/
def update (hg : Launcher) (reference : String) : HostM Error Unit := do
  let _ ← hg.run ["update", "--check", reference]

end RevisionControl.Mercurial
