import RevisionControl.Git.Output
import RevisionControl.Launcher
import RevisionControl.Remote

/-!
# Operations on Git working copies

Each operation asks Git once, and those that have more than one way to an answer ask again. A
failure of Git ends the operation, except where it is an answer: that the current branch tracks no
other (`notTrackingCode`), and that a way to the default branch leads nowhere.
-/

namespace RevisionControl.Git

open Text

/-- The head revision. -/
def headRevision (git : Launcher) : HostM Error String :=
  git.runTrimmed ["rev-parse", "--verify", "HEAD"]

/-- The revision that the current work started from: the last one already on a remote, or the head
revision. -/
def baseRevision (git : Launcher) : HostM Error String := do
  let listing ← git.run
    ["rev-list", "HEAD", "--topo-order", "--boundary", "--not", "--remotes"]
  match lastBoundary? listing with
  | some revision => return revision
  | none => headRevision git

/-- The current branch, if there is one. -/
def branch? (git : Launcher) : HostM Error (Option String) := do
  let name ← git.runTrimmed ["branch", "--show-current"]
  return if name.isEmpty then none else some name

/-! ## The remote -/

/-- The exit code that says that the current branch tracks no other. -/
def notTrackingCode : Int := 128

/-- The question which branch the current one tracks. -/
def trackedQuery : List String :=
  ["rev-parse", "--verify", "--abbrev-ref", "--symbolic-full-name", "@\x7bu\x7d"]

/-- The remote that is meant: that of the branch tracked, or else one of those listed. -/
def remoteName (git : Launcher) : HostM Error String := do
  match ← Host.outcome (git.run trackedQuery) with
  | .ok tracked => return beforeSlash (trim tracked)
  | .error error =>
    if error.exitCode? = some notTrackingCode then
      let listing ← git.run ["remote"]
      ExceptT.mk (pure (chooseListedRemote listing Tool.git.usualRemote))
    else throw error

/-! ## The default branch -/

/-- The default branch that was recorded when the working copy was cloned. -/
def recordedBranch (git : Launcher) : HostM Error String := do
  let name := (← remoteName git) ++ "/HEAD"
  let output ← git.run ["rev-parse", "--abbrev-ref", name]
  match branchBehindRemote? (trim output) with
  | some branch => return branch
  | none => throw (.unexpectedOutput ("git rev-parse --abbrev-ref " ++ name) output)

/-- The default branch that the remote tells. -/
def remoteBranch (git : Launcher) : HostM Error String := do
  let remote ← remoteName git
  let output ← git.run ["ls-remote", "--symref", remote, "HEAD"]
  match headTarget? output with
  | some branch => return branch
  | none => throw (.unexpectedOutput ("git ls-remote --symref " ++ remote ++ " HEAD") output)

/-- The usual default branch, if the working copy has it. -/
def localBranch (git : Launcher) : HostM Error String := do
  let output ← git.run ["branch", "--all", "--no-color", "--format=%(refname:short)"]
  match usualBranch? output with
  | some branch => return branch
  | none => throw (.unexpectedOutput "git branch --all" output)

/-- A way to the default branch. -/
structure Strategy where
  /-- Its name, for messages. -/
  name : String
  /-- Goes this way. -/
  find : Launcher → HostM Error String

/-- The ways to the default branch, the cheaper first. -/
def strategies : List Strategy :=
  [⟨"cloned metadata", recordedBranch⟩, ⟨"remote query", remoteBranch⟩,
    ⟨"local branch scan", localBranch⟩]

/-- Whether a failure only says that a strategy led nowhere. -/
def leadsNowhere : Error → Bool
  | .commandFailed _ | .unexpectedOutput .. | .ambiguousRemote _ => true
  | _ => false

/-- The branch that the first successful strategy finds; `attempts` tells of those that led
nowhere before. -/
def findBranch (git : Launcher) : List Strategy → (attempts : List String) → HostM Error String
  | [], attempts => throw (.defaultBranchNotFound attempts)
  | strategy :: more, attempts => do
    match ← Host.outcome (strategy.find git) with
    | .ok branch => return branch
    | .error error =>
      if leadsNowhere error then
        findBranch git more (attempts ++ [strategy.name ++ ": " ++ error.message])
      else throw error

/-- The default branch. -/
def defaultBranch (git : Launcher) : HostM Error String :=
  findBranch git strategies []

/-! ## Other operations -/

/-- The address of a remote. -/
def url (git : Launcher) (remote : Option String) : HostM Error String :=
  git.runTrimmed ["remote", "get-url", remote.getD Tool.git.usualRemote]

/-- The message of a revision. -/
def commitMessage (git : Launcher) (revision : Option String) : HostM Error String :=
  git.run ["log", "-n1", "--format=%B", revision.getD "HEAD", "--"]

/-- Whether nothing has been changed. Files that are not tracked or ignored count if asked for. -/
def isClean (git : Launcher) (untracked ignored : Bool) : HostM Error Bool := do
  let output ← git.run
    (["status", "--porcelain",
      if untracked then "--untracked-files=all" else "--untracked-files=no"] ++
        if ignored then ["--ignored"] else [])
  return isBlankText output

/-- Goes to a revision; changes that have not been committed are lost. -/
def update (git : Launcher) (reference : String) : HostM Error Unit := do
  let _ ← git.run ["checkout", "--force", reference]

end RevisionControl.Git
