import RevisionControl.Host.Fault
import RevisionControl.Text.Quoted
import RevisionControl.Text.Utf8

/-!
# Failures of operations on working copies

Texts that come from a tool are quoted where they stand inside a message, so that a message of one
line stays one line and two different texts never look alike.
-/

namespace RevisionControl

/-- A command that ended with a failure. -/
structure CommandFailure where
  /-- The executable and its arguments. -/
  command : String
  /-- The exit code; -1 stands for a death by signal. -/
  exitCode : Int
  /-- What it printed, decoded as far as possible. -/
  stdout : String
  /-- What it printed about errors, decoded as far as possible. -/
  stderr : String
deriving DecidableEq, Repr

/-- Why an operation failed. -/
inductive Error where
  /-- No directory of the search path has the executable. -/
  | toolNotFound (tool : String)
  /-- The tool ended with a failure. -/
  | commandFailed (failure : CommandFailure)
  /-- The tool printed something that the operation cannot use. -/
  | unexpectedOutput (command output : String)
  /-- It cannot be told which remote is meant. -/
  | ambiguousRemote (candidates : List String)
  /-- No way to find the default branch worked; each has its own message. -/
  | defaultBranchNotFound (attempts : List String)
  /-- The path lies in no working copy. -/
  | repositoryNotFound (path : String)
  /-- The host refused. -/
  | io (fault : Host.Fault)
  /-- The tool succeeded with output that is no text. -/
  | notUtf8 (fault : Text.Utf8.Fault)
deriving DecidableEq, Repr

namespace Error

/-- The wording of a failure. -/
def message : Error → String
  | .toolNotFound tool => tool ++ " not found on PATH"
  | .commandFailed failure =>
    "Command execution failed: " ++ failure.command ++ " (exit code: " ++
      toString failure.exitCode ++ "): " ++ failure.stderr
  | .unexpectedOutput command output =>
    "Unexpected output from " ++ command ++ ": " ++ Text.quote output
  | .ambiguousRemote candidates =>
    "Cannot determine remote repository name. Candidate remotes: " ++ Text.quoteList candidates
  | .defaultBranchNotFound attempts =>
    "Unable to find default branch. Tried: " ++ "; ".intercalate attempts
  | .repositoryNotFound path => "Repository not found from path: " ++ path
  | .io fault => "IO error: " ++ fault.message
  | .notUtf8 fault => "UTF-8 encoding error: " ++ fault.message

/-- The exit code of the command that failed, if it was a command that failed. -/
def exitCode? : Error → Option Int
  | .commandFailed failure => some failure.exitCode
  | _ => none

end Error

end RevisionControl
