import RevisionControl.Fixture.Settings
import RevisionControl.Host.Basic
import RevisionControl.Text.Blank
import RevisionControl.Text.Quoted
import RevisionControl.Tool

/-!
# Running tools for fixtures

Fixtures are set up with the tool that the search path has, and with the variables of the host and
a few more, so that neither prompts nor what the system has configured get in the way.
-/

namespace RevisionControl.Fixture

open Host

/-- Why a fixture cannot be set up. -/
inductive Failure where
  /-- The host refused. -/
  | io (fault : Fault)
  /-- The tool ended with a failure. -/
  | toolFailed (tool : Tool) (arguments : List String) (stderr : String)
deriving DecidableEq, Repr

/-- The wording of a failure. -/
def Failure.message : Failure → String
  | .io fault => fault.message
  | .toolFailed tool arguments stderr =>
    tool.name ++ " " ++ Text.quoteList arguments ++ " failed: " ++ stderr

/-- The variables that are set for a tool. -/
def toolVariables : Tool → List (String × String)
  | .git => [("GIT_CONFIG_NOSYSTEM", "1"), ("GIT_TERMINAL_PROMPT", "0")]
  | .hg => [("HGPLAIN", "1")]

/-- The process for a tool, in a directory. -/
def toolCommand (host : Host) (tool : Tool) (directory : String) (arguments : List String) :
    Command where
  program := .name tool.name
  arguments := arguments
  directory := some directory
  environment := host.environment.setAll (toolVariables tool)
  emptyInput := true

/-- Runs a tool in a directory and gives what it printed, decoded as far as possible. -/
def invoke (tool : Tool) (directory : String) (arguments : List String) :
    HostM Failure String := do
  let host ← get
  let reply ← Host.lift .io (Host.start (toolCommand host tool directory arguments))
  if reply.exit = .code 0 then return Text.Utf8.decodeLossy reply.stdout
  else throw (.toolFailed tool arguments (Text.Utf8.decodeLossy reply.stderr))

/-- Runs a tool in a directory once for each list of arguments. -/
def invokeAll (tool : Tool) (directory : String) : List (List String) → HostM Failure Unit
  | [] => return ()
  | arguments :: more => do
    let _ ← invoke tool directory arguments
    invokeAll tool directory more

/-- The process that asks a tool for its version. -/
def versionCommand (host : Host) (tool : Tool) : Command where
  program := .name tool.name
  arguments := ["--version"]
  directory := none
  environment := host.environment
  emptyInput := false

/-- Whether a tool can be run. -/
def isAvailable (tool : Tool) : HostM Failure Bool := do
  let host ← get
  match ← Host.outcome (Host.start (versionCommand host tool)) with
  | .ok reply => return reply.exit = .code 0
  | .error _ => return false

/-- Writes the content of a file. -/
def writeFile (path content : String) : HostM Failure Unit :=
  Host.lift .io (Host.writeFile path content.toUTF8.toList)

end RevisionControl.Fixture
