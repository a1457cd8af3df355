import RevisionControl.FileTree.Making
import RevisionControl.Host.Environment

/-!
# The host

The host has a file tree, a current directory and variables, and starts processes. A process is
known by its reply: what it changes in its directory, what it prints and how it ends. The replies
are given in advance, one for each process in the order they are started, with one more for all
that come after; every process that is started is recorded as a call.

A process is started only if its arguments and variables can be handed over, its directory exists
and its executable may be executed; these are asked for in that order, and a process that is not
started is no call and takes no reply.
-/

namespace RevisionControl

open FileTree

namespace Host

/-! ## Processes -/

/-- How a process ends. -/
inductive Exit where
  /-- By itself, with a code. -/
  | code (value : UInt8)
  /-- By a signal. -/
  | signal
deriving DecidableEq, Repr

/-- The number that stands for an end: the code, or -1 for a signal. -/
def Exit.number : Exit → Int
  | .code value => value.toNat
  | .signal => -1

/-- What a process does. -/
structure Reply where
  /-- What it makes in its directory before anything else. -/
  makings : List Making
  /-- What it prints. -/
  stdout : List UInt8
  /-- What it prints about errors. -/
  stderr : List UInt8
  /-- How it ends. -/
  exit : Exit
deriving DecidableEq, Repr

/-- How the executable of a process is found. -/
inductive Program where
  /-- By its path. -/
  | path (path : String)
  /-- By its name, in the directories of the search path. -/
  | name (name : String)
deriving DecidableEq, Repr

/-- The text that says how an executable is found. -/
def Program.text : Program → String
  | .path location => location
  | .name word => word

/-- A process to start. -/
structure Command where
  /-- The executable. -/
  program : Program
  /-- The arguments. -/
  arguments : List String
  /-- The directory, if it is not the current directory of the host. -/
  directory : Option String
  /-- The variables. -/
  environment : Environment
  /-- Whether standard input is empty, and not that of the host. -/
  emptyInput : Bool
deriving DecidableEq, Repr

/-- A process that has been started. -/
structure Call where
  /-- The path of the executable. -/
  executable : String
  /-- The arguments. -/
  arguments : List String
  /-- The directory. -/
  directory : Location
  /-- The variables. -/
  environment : Environment
  /-- Whether standard input is empty. -/
  emptyInput : Bool
deriving DecidableEq, Repr

end Host

open Host in
/-- A host. -/
structure Host where
  /-- The file tree. -/
  files : FileTree
  /-- The current directory, or nowhere if it has been removed. -/
  directory : Location
  /-- The variables. -/
  environment : Environment
  /-- The replies of the processes to come, in order. -/
  replies : List Reply
  /-- The reply of every process after those. -/
  lastReply : Reply
  /-- The processes started so far, in order. -/
  calls : List Call
  /-- Where temporary directories are made. -/
  scratch : Location
  /-- The number of temporary directories made so far. -/
  scratchCount : Nat

namespace Host

variable {α : Type}

/-! ## Executables -/

/-- The variable with the search path. -/
def searchVariable : String := "PATH"

/-- The directories of the search path, in order. -/
def searchPath (environment : Environment) : List String :=
  match environment.get? searchVariable with
  | none => []
  | some value => (Text.fields ':' value.toList).map String.ofList

/-- Checks that the file at a path may be executed. -/
def checkExecutable (files : FileTree) (directory : Location) (path : String) :
    Except Fault Unit := do
  match files.node? (← files.reach directory path) with
  | some (.file true _) => return ()
  | _ => .error .permissionDenied

/-- The places where an executable is searched by its name. One whose path is too long is passed
over, and the current directory is searched in its stead unless it is the last. -/
def searchPlaces : List String → List String
  | [] => []
  | [place] => if greatestPathSize < place.utf8ByteSize then [] else [place]
  | place :: more =>
    (if greatestPathSize < place.utf8ByteSize then "" else place) :: searchPlaces more

/-- The reason why no executable is found, after one more directory. -/
def Fault.orLater : Fault → Fault → Fault
  | .permissionDenied, _ => .permissionDenied
  | _, later => later

/-- The path of the first file of a name that may be executed. If there is none, the reason is that
one may not be executed, or else what the last directory gave. -/
def searchExecutable (files : FileTree) (directory : Location) (name : String) (reason : Fault) :
    List String → Except Fault String
  | [] => .error reason
  | place :: more =>
    let path := Path.join place name
    match checkExecutable files directory path with
    | .ok () => .ok path
    | .error .permissionDenied =>
      searchExecutable files directory name .permissionDenied more
    | .error .notFound => searchExecutable files directory name (reason.orLater .notFound) more
    | .error .notADirectory =>
      searchExecutable files directory name (reason.orLater .notADirectory) more
    | .error fault => .error fault

/-- The path of the executable of a command. -/
def findExecutable (files : FileTree) (directory : Location) (command : Command) :
    Except Fault String :=
  match command.program with
  | .path path => (checkExecutable files directory path).map fun () => path
  | .name name =>
    searchExecutable files directory name .notFound
      (searchPlaces (searchPath command.environment))

/-! ## Starting processes -/

/-- Whether a text holds the character zero. -/
def holdsNul (s : String) : Bool := '\x00' ∈ s.toList

/-- Whether a part of a command holds the character zero. -/
def Command.holdsNul (command : Command) : Bool :=
  Host.holdsNul command.program.text || command.arguments.any Host.holdsNul ||
    command.directory.any Host.holdsNul || command.environment.holdNul

/-- The call that a command becomes. -/
def prepare (host : Host) (command : Command) : Except Fault Call := do
  if command.holdsNul then .error .nulInData
  let directory ← match command.directory with
    | none => pure host.directory
    | some path => host.files.resolveDirectory host.directory path
  let executable ← findExecutable host.files directory command
  return ⟨executable, command.arguments, directory, command.environment, command.emptyInput⟩

/-- Takes the next reply. -/
def nextReply (host : Host) : Reply × Host :=
  match host.replies with
  | [] => (host.lastReply, host)
  | reply :: more => (reply, { host with replies := more })

/-- Records a call and lets its process run. -/
def run (host : Host) (call : Call) : Reply × Host :=
  let (reply, host) := host.nextReply
  (reply, { host with
    calls := host.calls ++ [call]
    files := (host.files.makeAll call.directory reply.makings).1 })

end Host

/-- Something done on the host. It may fail, and leaves the host changed even then. -/
abbrev HostM (ε α : Type) := ExceptT ε (StateM Host) α

namespace Host

variable {ε α : Type}

/-- Starts a process and waits for its end. -/
def start (command : Command) : HostM Fault Reply := fun host =>
  match host.prepare command with
  | .error fault => (.error fault, host)
  | .ok call =>
    let (reply, host) := host.run call
    (.ok reply, host)

/-- Reads the text of a file. -/
def readText (path : String) : HostM Fault String := fun host =>
  (host.files.readText host.directory path, host)

/-- Changes the file tree. -/
def changeFiles (change : FileTree → Location → Except Fault FileTree) : HostM Fault Unit :=
  fun host =>
    match change host.files host.directory with
    | .ok files => (.ok (), { host with files })
    | .error fault => (.error fault, host)

/-- Writes the content of a file. -/
def writeFile (path : String) (content : List UInt8) : HostM Fault Unit :=
  changeFiles fun files directory => files.write directory path content

/-- Adds to the content of a file. -/
def appendFile (path : String) (content : List UInt8) : HostM Fault Unit :=
  changeFiles fun files directory => files.append directory path content

/-- Makes a new temporary directory. -/
def makeScratch : HostM ε Location := fun host =>
  let location := host.scratch ++ [toString host.scratchCount]
  (.ok location, { host with
    files := host.files.insert location .directory
    scratchCount := host.scratchCount + 1 })

/-- Removes what is at a location. -/
def discard (location : Location) : HostM ε Unit := fun host =>
  (.ok (), { host with files := host.files.erase location })

/-- Does something that may fail for a reason of another kind. -/
def lift (wrap : Fault → ε) (action : HostM Fault α) : HostM ε α :=
  ExceptT.adapt wrap action

/-- Does something that may fail, and gives what came of it. -/
def outcome {δ : Type} (action : HostM δ α) : HostM ε (Except δ α) :=
  ExceptT.lift action.run

end Host

end RevisionControl
