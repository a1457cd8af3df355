import RevisionControl.Proofs.Operations
import RevisionControl.Proofs.Records

/-!
# Proofs: what the actions of a session change

What can become of a session by an action is said once (`Session.Change`): what an action leaves
alone is read off there, and so is that calls are made only by what the launched name is bound to.

Setting a variable matters to one name alone. Two sessions that differ in one name differ in it only
after any run that does not use it (`Session.AgreesBeside`).
-/

namespace RevisionControl

open Host

/-! ## Names in actions -/

namespace Action

/-- The name that an action binds to something else. -/
def binds? : Action → Option String
  | .bindLauncher name _ _ | .bindCopy name _ _ | .discover name _ | .duplicate _ name => some name
  | _ => none

/-- The name whose tool an action launches. -/
def launches? : Action → Option String
  | .launch name _ | .operate name _ => some name
  | _ => none

/-- The name that an action takes a binding from. -/
def uses? : Action → Option String
  | .duplicate name _ => some name
  | action => action.launches?

/-- An action sets no variable but one that can be found. -/
def Proper : Action → Prop
  | .setVariable _ key _ | .setHostVariable key (some _) => ProperName key
  | _ => True

end Action

/-! ## Runs -/

namespace Session

variable {session next : Session} {action : Action} {name key value : String} {binding : Binding}

/-- The session after some actions. -/
def performAll (session : Session) (actions : List Action) : Session :=
  actions.foldl (fun session action => (session.perform action).2) session

theorem get?_set (session : Session) (name : String) (binding : Binding) (other : String) :
    (session.set name binding).get? other =
      if other = name then some binding else session.get? other := by
  unfold get? set
  rw [lookup_cons_eq_ite]

theorem onHost_snd (session : Session) (work : HostM Error Answer) :
    (session.onHost work).2 = { session with host := (work.run session.host).2 } := by
  unfold onHost
  obtain ⟨outcome, after⟩ := work.run session.host
  cases outcome <;> rfl

/-- What can become of a session by an action. -/
inductive Change (session : Session) (action : Action) : Session → Prop where
  /-- Nothing. -/
  | nothing : Change session action session
  /-- A name is bound to something else. -/
  | binds (name : String) (binding : Binding) (names : action.binds? = some name) :
      Change session action (session.set name binding)
  /-- What a name is bound to has a variable set. -/
  | sets (name key value : String) (binding : Binding)
      (names : action = .setVariable name key value) (bound : session.get? name = some binding) :
      Change session action (session.set name (binding.setVariable key value))
  /-- The tool of what a name is bound to is launched. -/
  | launches (name : String) (binding : Binding) (calls : List Call) (after : Host)
      (names : action.launches? = some name) (bound : session.get? name = some binding)
      (starts : binding.base.Starts session.host calls after) :
      Change session action { session with host := after }
  /-- The host has a variable set or removed. -/
  | setsHost (key : String) (value : Option String) (environment : Environment)
      (names : action = .setHostVariable key value) :
      Change session action { session with host := { session.host with environment } }
  /-- Entries are made, and the current directory may go with what they replace. -/
  | makes (files : FileTree) (directory : FileTree.Location) :
      Change session action { session with host := { session.host with files, directory } }

theorem change_keep {made : Except Error Binding} (h : action.binds? = some name) :
    session.Change action (session.keep name made).2 := by
  cases made with
  | ok binding => exact .binds name binding h
  | error error => exact .nothing

theorem change_onHost {work : HostM Error Answer} {limit : Nat} (h : action.launches? = some name)
    (hbound : session.get? name = some binding) (hwork : binding.base.StartsAtMost limit work) :
    session.Change action (session.onHost work).2 := by
  obtain ⟨calls, hstarts, -⟩ := hwork session.host
  rw [onHost_snd]
  exact .launches name binding calls _ h hbound hstarts

/-- Nothing else can become of a session. -/
theorem change_perform (session : Session) (action : Action) :
    session.Change action (session.perform action).2 := by
  cases action with
  | bindLauncher name _ _ | bindCopy name _ _ | discover name _ => exact change_keep rfl
  | duplicate name new =>
    rw [perform]
    cases session.get? name with
    | none => exact .nothing
    | some binding => exact .binds new binding rfl
  | describe name =>
    rw [perform]
    cases session.get? name <;> exact .nothing
  | setVariable name key value =>
    rw [perform]
    cases hbound : session.get? name with
    | none => exact .nothing
    | some binding => exact .sets name key value binding rfl hbound
  | tellVariable name key =>
    rw [perform]
    split <;> exact .nothing
  | launch name arguments =>
    rw [perform]
    split
    · next launcher hbound =>
      exact change_onHost rfl hbound ((launcher.startsAtMost_run arguments).map _)
    · exact .nothing
  | operate name operation =>
    rw [perform]
    split
    · next copy hbound => exact change_onHost rfl hbound (copy.startsAtMost_perform operation)
    · exact .nothing
  | setHostVariable key value => exact .setsHost key value _ rfl
  | make makings => exact .makes _ _

/-! ### What an action leaves alone -/

/-- What a name is bound to stays as it is unless the name is bound anew or has a variable set. -/
theorem Change.get?_eq (h : session.Change action next) (hbinds : action.binds? ≠ some name)
    (hsets : ∀ key value, action ≠ .setVariable name key value) :
    next.get? name = session.get? name := by
  cases h with
  | nothing => rfl
  | binds other binding names =>
    have hne : name ≠ other := fun heq => hbinds (heq ▸ names)
    rw [get?_set, if_neg hne]
  | sets other key value binding names bound =>
    have hne : name ≠ other := fun heq => hsets key value (heq ▸ names)
    rw [get?_set, if_neg hne]
  | launches => rfl
  | setsHost => rfl
  | makes => rfl

/-- The path and the executable stay even if a variable is set. -/
theorem Change.face_eq (h : session.Change action next) (hbinds : action.binds? ≠ some name) :
    (next.get? name).map Binding.face = (session.get? name).map Binding.face := by
  by_cases hsets : ∃ key value, action = .setVariable name key value
  · obtain ⟨key, value, rfl⟩ := hsets
    cases h with
    | nothing => rfl
    | binds other binding names => cases names
    | sets other key value binding names bound =>
      cases names
      rw [get?_set, if_pos rfl, bound]
      exact congrArg some (binding.face_setVariable key value)
    | launches => rfl
    | setsHost => rfl
    | makes => rfl
  · rw [h.get?_eq hbinds fun key value heq => hsets ⟨key, value, heq⟩]

theorem Change.environment_eq (h : session.Change action next)
    (hhost : ∀ key value, action ≠ .setHostVariable key value) :
    next.host.environment = session.host.environment := by
  cases h with
  | nothing => rfl
  | binds => rfl
  | sets => rfl
  | launches name binding calls after names bound starts => exact starts.environment_eq
  | setsHost key value environment names => exact absurd names (hhost key value)
  | makes => rfl

/-- Calls are made only by what the launched name is bound to. -/
theorem Change.calls_eq (h : session.Change action next) :
    ∃ calls, next.host.calls = session.host.calls ++ calls ∧
      (calls = [] ∨ ∃ name binding, action.launches? = some name ∧
        session.get? name = some binding ∧ binding.base.Starts session.host calls next.host) := by
  cases h with
  | launches name binding calls after names bound starts =>
    exact ⟨calls, starts.calls_eq, Or.inr ⟨name, binding, names, bound, starts⟩⟩
  | nothing => exact ⟨[], (List.append_nil _).symm, Or.inl rfl⟩
  | binds => exact ⟨[], (List.append_nil _).symm, Or.inl rfl⟩
  | sets => exact ⟨[], (List.append_nil _).symm, Or.inl rfl⟩
  | setsHost => exact ⟨[], (List.append_nil _).symm, Or.inl rfl⟩
  | makes => exact ⟨[], (List.append_nil _).symm, Or.inl rfl⟩

/-- Proper variables of the host stay proper. -/
theorem environment_perform (h : session.host.environment.Proper) (haction : action.Proper) :
    (session.perform action).2.host.environment.Proper := by
  by_cases hhost : ∃ key value, action = .setHostVariable key value
  · obtain ⟨key, value, rfl⟩ := hhost
    cases value with
    | none => exact h.erase key
    | some value => exact h.set haction value
  · rw [(session.change_perform action).environment_eq fun key value heq => hhost ⟨key, value, heq⟩]
    exact h

/-! ### Sessions that differ in one name -/

/-- Two sessions on one host bind every name but one to the same. -/
structure AgreesBeside (name : String) (session other : Session) : Prop where
  /-- The hosts are the same, with the calls made so far. -/
  host : other.host = session.host
  /-- The names are bound to the same. -/
  get? : ∀ bound, bound ≠ name → other.get? bound = session.get? bound

namespace AgreesBeside

variable {other third : Session}

theorem symm (h : AgreesBeside name session other) : AgreesBeside name other session where
  host := h.host.symm
  get? bound hne := (h.get? bound hne).symm

theorem trans (h : AgreesBeside name session other) (h' : AgreesBeside name other third) :
    AgreesBeside name session third where
  host := h'.host.trans h.host
  get? bound hne := (h'.get? bound hne).trans (h.get? bound hne)

theorem of_set (session : Session) (name : String) (binding : Binding) :
    AgreesBeside name session (session.set name binding) where
  host := rfl
  get? bound hne := by rw [get?_set, if_neg hne]

theorem of_setVariable (session : Session) (name key value : String) :
    AgreesBeside name session (session.perform (.setVariable name key value)).2 := by
  rw [perform]
  cases session.get? name with
  | none => exact ⟨rfl, fun _ _ => rfl⟩
  | some binding => exact of_set session name _

theorem set (h : AgreesBeside name session other) (bound : String) (binding : Binding) :
    AgreesBeside name (session.set bound binding) (other.set bound binding) where
  host := h.host
  get? asked hne := by rw [get?_set, get?_set, h.get? asked hne]

theorem keep (h : AgreesBeside name session other) (bound : String) (made : Except Error Binding) :
    AgreesBeside name (session.keep bound made).2 (other.keep bound made).2 := by
  cases made with
  | ok binding => exact h.set bound binding
  | error error => exact h

theorem withHost (h : AgreesBeside name session other) (host : Host) :
    AgreesBeside name { session with host } { other with host } where
  host := rfl
  get? := h.get?

theorem onHost (h : AgreesBeside name session other) (work : HostM Error Answer) :
    AgreesBeside name (session.onHost work).2 (other.onHost work).2 := by
  rw [onHost_snd, onHost_snd, h.host]
  exact h.withHost _

/-- No action tells the two apart, unless it uses the name. -/
theorem perform (h : AgreesBeside name session other) (huses : action.uses? ≠ some name) :
    AgreesBeside name (session.perform action).2 (other.perform action).2 := by
  cases action with
  | bindLauncher bound _ _ | bindCopy bound _ _ | discover bound _ =>
    -- What is made depends on the host alone.
    rw [Session.perform, Session.perform, h.host]
    exact h.keep bound _
  | duplicate bound new =>
    rw [Session.perform, Session.perform, h.get? bound fun heq => huses (congrArg some heq)]
    cases session.get? bound with
    | none => exact h
    | some binding => exact h.set new binding
  | describe bound =>
    rw [Session.perform, Session.perform]
    cases session.get? bound <;> cases other.get? bound <;> exact h
  | setVariable bound key value =>
    by_cases heq : bound = name
    · rw [heq]
      exact (of_setVariable session name key value).symm.trans
        (h.trans (of_setVariable other name key value))
    · rw [Session.perform, Session.perform, h.get? bound heq]
      cases session.get? bound with
      | none => exact h
      | some binding => exact h.set bound _
  | tellVariable bound key =>
    rw [Session.perform, Session.perform]
    split <;> split <;> exact h
  | launch bound _ | operate bound _ =>
    rw [Session.perform, Session.perform, h.get? bound fun heq => huses (congrArg some heq)]
    split
    · exact h.onHost _
    · exact h
  | setHostVariable key value =>
    cases value with
    | none =>
      rw [Session.perform, Session.perform, h.host]
      exact h.withHost _
    | some value =>
      rw [Session.perform, Session.perform, h.host]
      exact h.withHost _
  | make makings =>
    rw [Session.perform, Session.perform, h.host]
    exact h.withHost _

/-- No run tells the two apart, unless it uses the name. -/
theorem performAll (h : AgreesBeside name session other) {actions : List Action}
    (huses : ∀ action ∈ actions, action.uses? ≠ some name) :
    AgreesBeside name (session.performAll actions) (other.performAll actions) := by
  induction actions generalizing session other with
  | nil => exact h
  | cons action actions ih =>
    have hfirst := h.perform (huses action List.mem_cons_self)
    exact ih hfirst fun later hlater => huses later (List.mem_cons_of_mem _ hlater)

end AgreesBeside

end Session

end RevisionControl
