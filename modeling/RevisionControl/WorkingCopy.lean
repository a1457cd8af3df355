import RevisionControl.Git.Operations
import RevisionControl.Mercurial

/-!
# Working copies

A working copy is a directory kept by a tool. The operations are the same for both tools; what is
asked of the tool differs.
-/

namespace RevisionControl

/-- A working copy. -/
structure WorkingCopy where
  /-- The tool that keeps it. -/
  tool : Tool
  /-- Launches the tool in it. -/
  launcher : Launcher
deriving DecidableEq, Repr

namespace WorkingCopy

/-- The working copy in a directory, which is not looked at. -/
def bind (host : Host) (tool : Tool) (root : String) : Except Error WorkingCopy := do
  let launcher ← Launcher.bind host tool root
  return ⟨tool, launcher.setVariable tool.forced.1 tool.forced.2⟩

/-- The directory, as it was given. -/
def path (copy : WorkingCopy) : String := copy.launcher.root

/-- The path of the tool's executable. -/
def executable (copy : WorkingCopy) : String := copy.launcher.executable

/-- Sets a variable for the processes to come. -/
def setVariable (copy : WorkingCopy) (name value : String) : WorkingCopy :=
  { copy with launcher := copy.launcher.setVariable name value }

/-- The head revision. -/
def headRevision (copy : WorkingCopy) : HostM Error String :=
  match copy.tool with
  | .git => Git.headRevision copy.launcher
  | .hg => Mercurial.headRevision copy.launcher

/-- The revision that the current work started from. -/
def baseRevision (copy : WorkingCopy) : HostM Error String :=
  match copy.tool with
  | .git => Git.baseRevision copy.launcher
  | .hg => Mercurial.baseRevision copy.launcher

/-- The current branch or bookmark, if there is one. -/
def branch? (copy : WorkingCopy) : HostM Error (Option String) :=
  match copy.tool with
  | .git => Git.branch? copy.launcher
  | .hg => Mercurial.branch? copy.launcher

/-- The remote that is meant when none is named. -/
def remoteName (copy : WorkingCopy) : HostM Error String :=
  match copy.tool with
  | .git => Git.remoteName copy.launcher
  | .hg => Mercurial.remoteName copy.launcher

/-- The default branch. -/
def defaultBranch (copy : WorkingCopy) : HostM Error String :=
  match copy.tool with
  | .git => Git.defaultBranch copy.launcher
  | .hg => Mercurial.defaultBranch

/-- The address of a remote. -/
def url (copy : WorkingCopy) (remote : Option String) : HostM Error String :=
  match copy.tool with
  | .git => Git.url copy.launcher remote
  | .hg => Mercurial.url copy.launcher remote

/-- The message of a revision. -/
def commitMessage (copy : WorkingCopy) (revision : Option String) : HostM Error String :=
  match copy.tool with
  | .git => Git.commitMessage copy.launcher revision
  | .hg => Mercurial.commitMessage copy.launcher revision

/-- Whether nothing has been changed. -/
def isClean (copy : WorkingCopy) (untracked ignored : Bool) : HostM Error Bool :=
  match copy.tool with
  | .git => Git.isClean copy.launcher untracked ignored
  | .hg => Mercurial.isClean copy.launcher untracked ignored

/-- Goes to a revision. -/
def update (copy : WorkingCopy) (reference : String) : HostM Error Unit :=
  match copy.tool with
  | .git => Git.update copy.launcher reference
  | .hg => Mercurial.update copy.launcher reference

end WorkingCopy

end RevisionControl
