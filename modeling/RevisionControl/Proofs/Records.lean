import RevisionControl.Proofs.Environments
import RevisionControl.Session

/-!
# Proofs: records of what is bound

A record says of a launcher or a working copy where and with which executable and variables it was
made, and what has been set since. It is read without looking at the thing itself: the variables are
three layers, of which the upper one counts (`Record.value?`). What is made is made as a record says
(`describes_bindLauncher`, `describes_bindCopy`), and setting a variable keeps the two together
(`Describes.setVariable`).
-/

namespace RevisionControl

open Host

/-! ## Records -/

/-- What there is to know of something that a name is bound to. -/
structure Record where
  /-- The tool of a working copy. A launcher alone has none, and forces nothing on its processes. -/
  keeper : Option Tool
  /-- The directory it was made for. -/
  root : String
  /-- The executable that was found when it was made. -/
  executable : String
  /-- The variables of the host when it was made. -/
  inherited : Environment
  /-- The variables set since, in order. -/
  written : List (String × String)

namespace Record

/-- The variable that the tool forces, if any. -/
def forced (record : Record) : List (String × String) :=
  record.keeper.toList.map Tool.forced

/-- The value of a variable: what was set last, or else what the tool forces, or else what was
inherited. -/
def value? (record : Record) (key : String) : Option String :=
  (record.written.reverse.lookup key).or
    ((record.forced.lookup key).or (record.inherited.get? key))

/-- The variables by the record. -/
def environment (record : Record) : Environment :=
  (record.inherited.setAll record.forced).setAll record.written

/-- A record with one more variable set. -/
def write (record : Record) (key value : String) : Record :=
  { record with written := record.written ++ [(key, value)] }

/-- The record of what is made on a host, if the executable of its tool is found there. -/
def made? (host : Host) (tool : Tool) (root : String) (keeper : Option Tool) : Option Record :=
  (Launcher.find? host tool.name (searchPath host.environment)).map fun executable =>
    ⟨keeper, root, executable, host.environment, []⟩

theorem environment_write (record : Record) (key value : String) :
    (record.write key value).environment = record.environment.set key value := by
  show (record.inherited.setAll record.forced).setAll (record.written ++ [(key, value)]) = _
  unfold Environment.setAll
  rw [List.foldl_append]
  rfl

/-- All that a record names can be the name of a variable. -/
structure Proper (record : Record) : Prop where
  /-- The variables of the host were proper. -/
  inherited : record.inherited.Proper
  /-- The variables set since are. -/
  written : ∀ entry ∈ record.written, ProperName entry.1

theorem Proper.environment {record : Record} (h : record.Proper) : record.environment.Proper := by
  refine (h.inherited.setAll fun entry hentry => ?_).setAll h.written
  obtain ⟨tool, -, rfl⟩ := List.mem_map.mp hentry
  cases tool <;> exact ⟨by decide, by decide⟩

theorem Proper.write {record : Record} (h : record.Proper) {key : String} (hkey : ProperName key)
    (value : String) : (record.write key value).Proper where
  inherited := h.inherited
  written entry hentry := by
    rcases List.mem_append.mp hentry with hentry | hentry
    · exact h.written entry hentry
    · rw [List.mem_singleton.mp hentry]
      exact hkey

theorem Proper.of_made? {host : Host} {tool : Tool} {root : String} {keeper : Option Tool}
    {record : Record} (h : host.environment.Proper)
    (hmade : made? host tool root keeper = some record) : record.Proper := by
  obtain ⟨executable, -, rfl⟩ := Option.map_eq_some_iff.mp hmade
  exact ⟨h, fun entry hentry => absurd hentry List.not_mem_nil⟩

end Record

/-! ## Bindings -/

namespace Binding

/-- The launcher of whatever a name is bound to. -/
def base : Binding → Launcher
  | .launcher bound => bound
  | .copy bound => bound.launcher

/-- What is settled when something is made: its tool if it is a working copy, its path and its
executable. -/
def face : Binding → Option Tool × String × String
  | .launcher bound => (none, bound.root, bound.executable)
  | .copy bound => (some bound.tool, bound.path, bound.executable)

theorem face_setVariable (binding : Binding) (key value : String) :
    (binding.setVariable key value).face = binding.face := by
  cases binding <;> rfl

theorem base_setVariable (binding : Binding) (key value : String) :
    (binding.setVariable key value).base = binding.base.setVariable key value := by
  cases binding <;> rfl

theorem face_eq (binding : Binding) :
    binding.face = (binding.face.1, binding.base.root, binding.base.executable) := by
  cases binding <;> rfl

end Binding

/-- A record says of a binding what is the case. -/
structure Record.Describes (record : Record) (binding : Binding) : Prop where
  /-- It has the tool, the path and the executable that something was made with. -/
  face : binding.face = (record.keeper, record.root, record.executable)
  /-- It has the variables. -/
  environment : binding.base.environment = record.environment

namespace Record

theorem Describes.root {record : Record} {binding : Binding} (h : record.Describes binding) :
    binding.base.root = record.root :=
  (Prod.mk.inj (Prod.mk.inj (binding.face_eq.symm.trans h.face)).2).1

theorem Describes.executable {record : Record} {binding : Binding} (h : record.Describes binding) :
    binding.base.executable = record.executable :=
  (Prod.mk.inj (Prod.mk.inj (binding.face_eq.symm.trans h.face)).2).2

theorem Describes.setVariable {record : Record} {binding : Binding} (h : record.Describes binding)
    (key value : String) : (record.write key value).Describes (binding.setVariable key value) where
  face := (binding.face_setVariable key value).trans h.face
  environment := by
    rw [binding.base_setVariable, environment_write, ← h.environment]
    rfl

/-- A launcher is made as its record says, or not at all. -/
theorem describes_bindLauncher (host : Host) (tool : Tool) (root : String) :
    Option.Rel Describes (made? host tool root none)
      ((Launcher.bind host tool root).map Binding.launcher).toOption := by
  unfold made? Launcher.bind
  cases Launcher.find? host tool.name (searchPath host.environment) with
  | none => exact .none
  | some executable => exact .some ⟨rfl, rfl⟩

/-- A working copy is made as its record says, or not at all. -/
theorem describes_bindCopy (host : Host) (tool : Tool) (root : String) :
    Option.Rel Describes (made? host tool root (some tool))
      ((WorkingCopy.bind host tool root).map Binding.copy).toOption := by
  unfold made? WorkingCopy.bind Launcher.bind
  cases Launcher.find? host tool.name (searchPath host.environment) with
  | none => exact .none
  | some executable => exact .some ⟨rfl, rfl⟩

end Record

end RevisionControl
