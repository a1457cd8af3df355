import RevisionControl.Discovery
import RevisionControl.Operation

/-!
# Sessions

A session binds names to launchers and working copies and performs one action after the other on
them and on their host. What is bound to a name is changed only by actions on that name: a
duplicate goes its own way, and the variables of the host matter only when something is bound.
-/

namespace RevisionControl

/-- What a name can be bound to. -/
inductive Binding where
  /-- A launcher alone. -/
  | launcher (launcher : Launcher)
  /-- A working copy. -/
  | copy (copy : WorkingCopy)
deriving DecidableEq, Repr

/-- Sets a variable for the processes to come. -/
def Binding.setVariable (binding : Binding) (key value : String) : Binding :=
  match binding with
  | .launcher bound => .launcher (bound.setVariable key value)
  | .copy bound => .copy (bound.setVariable key value)

/-- A host, and what names are bound to. -/
structure Session where
  /-- The host. -/
  host : Host
  /-- The bindings; of two for one name the first counts. -/
  bindings : List (String × Binding)

/-- What is done in a session. -/
inductive Action where
  /-- Binds a name to a launcher for a directory. -/
  | bindLauncher (name : String) (tool : Tool) (path : String)
  /-- Binds a name to the working copy in a directory. -/
  | bindCopy (name : String) (tool : Tool) (path : String)
  /-- Binds a name to the working copy around a path. -/
  | discover (name : String) (path : String)
  /-- Binds a new name to what a name is bound to. -/
  | duplicate (name new : String)
  /-- Tells what a name is bound to. -/
  | describe (name : String)
  /-- Sets a variable of what a name is bound to. -/
  | setVariable (name key value : String)
  /-- Tells the value of a variable of a launcher. -/
  | tellVariable (name key : String)
  /-- Launches the tool of a launcher. -/
  | launch (name : String) (arguments : List String)
  /-- Performs an operation on a working copy. -/
  | operate (name : String) (operation : Operation)
  /-- Sets or removes a variable of the host. -/
  | setHostVariable (key : String) (value : Option String)
  /-- Makes entries in the current directory. -/
  | make (makings : List FileTree.Making)
deriving DecidableEq, Repr

/-- What comes of an action. -/
inductive Outcome where
  /-- The name is bound to nothing of the kind that the action needs. -/
  | unbound
  /-- What the name is bound to. -/
  | bound (binding : Binding)
  /-- An answer. -/
  | answered (answer : Answer)
  /-- A failure. -/
  | failed (error : Error)
deriving DecidableEq, Repr

namespace Session

/-- What a name is bound to. -/
def get? (session : Session) (name : String) : Option Binding :=
  session.bindings.lookup name

/-- Binds a name. -/
def set (session : Session) (name : String) (binding : Binding) : Session :=
  { session with bindings := (name, binding) :: session.bindings }

/-- Binds a name to what has been made, if it could be made. -/
def keep (session : Session) (name : String) (made : Except Error Binding) :
    Outcome × Session :=
  match made with
  | .ok binding => (.bound binding, session.set name binding)
  | .error error => (.failed error, session)

/-- Does something on the host. -/
def onHost (session : Session) (action : HostM Error Answer) : Outcome × Session :=
  match action.run session.host with
  | (.ok answer, host) => (.answered answer, { session with host })
  | (.error error, host) => (.failed error, { session with host })

/-- Performs an action. -/
def perform (session : Session) : Action → Outcome × Session
  | .bindLauncher name tool path =>
    session.keep name ((Launcher.bind session.host tool path).map .launcher)
  | .bindCopy name tool path =>
    session.keep name ((WorkingCopy.bind session.host tool path).map .copy)
  | .discover name path =>
    session.keep name ((WorkingCopy.discover session.host path).map .copy)
  | .duplicate name new =>
    match session.get? name with
    | some binding => (.answered .done, session.set new binding)
    | none => (.unbound, session)
  | .describe name =>
    match session.get? name with
    | some binding => (.bound binding, session)
    | none => (.unbound, session)
  | .setVariable name key value =>
    match session.get? name with
    | some binding => (.answered .done, session.set name (binding.setVariable key value))
    | none => (.unbound, session)
  | .tellVariable name key =>
    match session.get? name with
    | some (.launcher launcher) => (.answered (.optional (launcher.value? key)), session)
    | _ => (.unbound, session)
  | .launch name arguments =>
    match session.get? name with
    | some (.launcher launcher) => session.onHost (.text <$> launcher.run arguments)
    | _ => (.unbound, session)
  | .operate name operation =>
    match session.get? name with
    | some (.copy copy) => session.onHost (copy.perform operation)
    | _ => (.unbound, session)
  | .setHostVariable key value =>
    let environment := match value with
      | some value => session.host.environment.set key value
      | none => session.host.environment.erase key
    (.answered .done, { session with host := { session.host with environment } })
  | .make makings =>
    let (files, directory) := session.host.files.makeAll session.host.directory makings
    (.answered .done, { session with host := { session.host with files, directory } })

end Session

end RevisionControl
