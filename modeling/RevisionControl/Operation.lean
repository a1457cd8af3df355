import RevisionControl.WorkingCopy

/-!
# Operations as values

Every operation on a working copy as a value, so that it can be chosen, kept and spoken about, and
the answers that operations give.
-/

namespace RevisionControl

/-- What can be asked of a working copy, or done with it. -/
inductive Operation where
  /-- The head revision. -/
  | headRevision
  /-- The revision that the current work started from. -/
  | baseRevision
  /-- The current branch or bookmark. -/
  | branch
  /-- The remote that is meant when none is named. -/
  | remoteName
  /-- The default branch. -/
  | defaultBranch
  /-- The address of a remote. -/
  | url (remote : Option String)
  /-- The message of a revision. -/
  | commitMessage (revision : Option String)
  /-- Whether nothing has been changed. -/
  | isClean (untracked ignored : Bool)
  /-- Going to a revision. -/
  | update (reference : String)
deriving DecidableEq, Repr

/-- What an operation gives. -/
inductive Answer where
  /-- A text. -/
  | text (value : String)
  /-- A text, or that there is none. -/
  | optional (value : Option String)
  /-- Yes or no. -/
  | flag (value : Bool)
  /-- Nothing but that it is done. -/
  | done
deriving DecidableEq, Repr

/-- Performs an operation. -/
def WorkingCopy.perform (copy : WorkingCopy) : Operation → HostM Error Answer
  | .headRevision => .text <$> copy.headRevision
  | .baseRevision => .text <$> copy.baseRevision
  | .branch => .optional <$> copy.branch?
  | .remoteName => .text <$> copy.remoteName
  | .defaultBranch => .text <$> copy.defaultBranch
  | .url remote => .text <$> copy.url remote
  | .commitMessage revision => .text <$> copy.commitMessage revision
  | .isClean untracked ignored => .flag <$> copy.isClean untracked ignored
  | .update reference => (fun () => .done) <$> copy.update reference

end RevisionControl
