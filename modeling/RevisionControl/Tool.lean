/-!
# The two tools

A working copy is kept by one of two tools. Each has an executable, a directory or file in the root
of its working copies, and a name it gives to the remote that a copy was made from.
-/

namespace RevisionControl

/-- A tool that keeps working copies. -/
inductive Tool where
  /-- Mercurial. -/
  | hg
  /-- Git. -/
  | git
deriving DecidableEq, Repr

namespace Tool

/-- The name of the executable; it is the name of the tool in texts, too. -/
def name : Tool → String
  | .hg => "hg"
  | .git => "git"

/-- The entry that marks the root of a working copy. -/
def mark : Tool → String
  | .hg => ".hg"
  | .git => ".git"

/-- The remote meant when none is named. -/
def usualRemote : Tool → String
  | .hg => "default"
  | .git => "origin"

/-- The variable that keeps the tool to output that can be parsed, and its value: no prompts, no
configured formats. -/
def forced : Tool → String × String
  | .hg => ("HGPLAIN", "1")
  | .git => ("GIT_TERMINAL_PROMPT", "0")

end Tool

end RevisionControl
