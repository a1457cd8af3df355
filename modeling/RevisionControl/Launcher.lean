import RevisionControl.Error
import RevisionControl.Host.Basic
import RevisionControl.Text.Blank
import RevisionControl.Tool

/-!
# Launching a tool

A launcher is bound to a directory and keeps the path of the tool's executable and a copy of the
variables, both taken when it was made. What is set in the copy reaches the processes it launches
and nothing else.

Two things are taken for granted of the search path. Its entries are literal: a tilde in one stands
for itself. And an executable that is found through an empty entry, so that its path has no slash in
it, is run as a path from the root of the launcher, like any other relative one.

A process that succeeds gives what it printed, which must be text. One that fails gives both of its
outputs, as far as they can be decoded.
-/

namespace RevisionControl

open Host

/-- Launches a tool in a directory. -/
structure Launcher where
  /-- The directory, as it was given. -/
  root : String
  /-- The path of the executable. -/
  executable : String
  /-- The variables of the processes. -/
  environment : Environment
deriving DecidableEq, Repr

namespace Launcher

/-- The first file of a name in some directories that may be executed. -/
def find? (host : Host) (name : String) (places : List String) : Option String :=
  (places.map (FileTree.Path.join · name)).find? fun path =>
    (checkExecutable host.files host.directory path).isOk

/-- A launcher for a directory, which is not looked at. -/
def bind (host : Host) (tool : Tool) (root : String) : Except Error Launcher :=
  match find? host tool.name (searchPath host.environment) with
  | some executable => .ok ⟨root, executable, host.environment⟩
  | none => .error (.toolNotFound tool.name)

/-- Sets a variable for the processes to come. -/
def setVariable (launcher : Launcher) (name value : String) : Launcher :=
  { launcher with environment := launcher.environment.set name value }

/-- The value that a variable has for the processes to come. -/
def value? (launcher : Launcher) (name : String) : Option String :=
  launcher.environment.get? name

/-- The process for some arguments. -/
def command (launcher : Launcher) (arguments : List String) : Command where
  program := .path launcher.executable
  arguments := arguments
  directory := some launcher.root
  environment := launcher.environment
  emptyInput := true

/-- The executable and the arguments in one line. -/
def describe (launcher : Launcher) (arguments : List String) : String :=
  " ".intercalate (launcher.executable :: arguments)

/-- What a process comes to. -/
def result (description : String) (reply : Reply) : Except Error String :=
  if reply.exit = .code 0 then
    match Text.Utf8.decode? reply.stdout with
    | .ok text => .ok text
    | .error fault => .error (.notUtf8 fault)
  else
    .error (.commandFailed {
      command := description
      exitCode := reply.exit.number
      stdout := Text.Utf8.decodeLossy reply.stdout
      stderr := Text.Utf8.decodeLossy reply.stderr })

/-- Launches the tool and gives what it printed. -/
def run (launcher : Launcher) (arguments : List String) : HostM Error String := do
  let reply ← Host.lift .io (Host.start (launcher.command arguments))
  ExceptT.mk (pure (result (launcher.describe arguments) reply))

/-- Launches the tool and gives what it printed, trimmed. -/
def runTrimmed (launcher : Launcher) (arguments : List String) : HostM Error String :=
  return Text.trim (← launcher.run arguments)

end Launcher

end RevisionControl
