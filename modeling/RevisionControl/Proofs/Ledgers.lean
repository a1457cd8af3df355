import RevisionControl.Proofs.Sessions

/-!
# Proofs: what the processes of a session run with

Beside a session a ledger is kept with a record for each name that is bound (`Ledger.note`). It is
written from the actions and the host, and never from what the names are bound to. That it agrees
with this is the invariant of every run (`Ledger.Tracks`), and so every process runs with what the
record of its name says at the time.
-/

namespace RevisionControl

open Host

/-- The records of what names are bound to; of two for one name the first counts. -/
abbrev Ledger := List (String × Record)

namespace Ledger

variable {ledger : Ledger} {host : Host} {session next : Session} {action : Action}
  {actions : List Action} {name : String} {made? : Option Record}

/-- Notes the record of what has been made for a name, if it could be made. -/
def keep (ledger : Ledger) (name : String) : Option Record → Ledger
  | some record => (name, record) :: ledger
  | none => ledger

/-- Notes an action on a host. Something new gets a new record, a duplicate gets the record of its
original, and a variable that is set is written into the record of its name. -/
def note (ledger : Ledger) (host : Host) : Action → Ledger
  | .bindLauncher name tool path => ledger.keep name (Record.made? host tool path none)
  | .bindCopy name tool path => ledger.keep name (Record.made? host tool path (some tool))
  | .discover name path =>
    match findRoot host path with
    | .ok (root, tool) => ledger.keep name (Record.made? host tool root.text (some tool))
    | .error _ => ledger
  | .duplicate name new => ledger.keep new (ledger.lookup name)
  | .setVariable name key value =>
    ledger.keep name ((ledger.lookup name).map (·.write key value))
  | _ => ledger

/-- Notes some actions, each on the host as those before it leave it. -/
def noteAll (ledger : Ledger) (session : Session) : List Action → Ledger
  | [] => ledger
  | action :: actions =>
    noteAll (ledger.note session.host action) (session.perform action).2 actions

theorem lookup_keep (ledger : Ledger) (name : String) (made? : Option Record) (other : String) :
    (ledger.keep name made?).lookup other =
      if other = name then made?.or (ledger.lookup other) else ledger.lookup other := by
  cases made? with
  | none =>
    show ledger.lookup other = _
    rw [Option.none_or, ite_self]
  | some record =>
    show List.lookup other ((name, record) :: ledger) = _
    rw [lookup_cons_eq_ite, Option.some_or]

/-- Exactly the names that are bound have records, and the records describe what they are bound
to. -/
def Tracks (ledger : Ledger) (session : Session) : Prop :=
  ∀ name, Option.Rel Record.Describes (ledger.lookup name) (session.get? name)

theorem Tracks.of_get? (h : ledger.Tracks session)
    (hsame : ∀ name, next.get? name = session.get? name) : ledger.Tracks next := by
  intro name
  rw [hsame name]
  exact h name

theorem Tracks.set {record : Record} {binding : Binding} (h : ledger.Tracks session)
    (hrecord : record.Describes binding) :
    Tracks (ledger.keep name (some record)) (session.set name binding) := by
  intro other
  rw [lookup_keep, Session.get?_set]
  by_cases hother : other = name
  · rw [if_pos hother, if_pos hother]
    exact .some hrecord
  · rw [if_neg hother, if_neg hother]
    exact h other

/-- What is made is noted, and nothing is noted if it could not be made. -/
theorem Tracks.keep {made : Except Error Binding} (h : ledger.Tracks session)
    (hmade : Option.Rel Record.Describes made? made.toOption) :
    Tracks (ledger.keep name made?) (session.keep name made).2 := by
  cases made with
  | ok binding =>
    cases hmade with
    | some hrecord => exact h.set hrecord
  | error error =>
    cases hmade with
    | none => exact h

/-- Whatever an action does, noting it keeps the records true. -/
theorem Tracks.perform (h : ledger.Tracks session) (action : Action) :
    Tracks (ledger.note session.host action) (session.perform action).2 := by
  cases action with
  | bindLauncher name tool path =>
    exact h.keep (Record.describes_bindLauncher session.host tool path)
  | bindCopy name tool path =>
    exact h.keep (Record.describes_bindCopy session.host tool path)
  | discover name path =>
    rw [note, Session.perform, WorkingCopy.discover]
    cases findRoot session.host path with
    | error error => exact h
    | ok found => exact h.keep (Record.describes_bindCopy session.host found.2 found.1.text)
  | duplicate name new =>
    rw [note, Session.perform]
    have hname := h name
    generalize List.lookup name ledger = record? at hname
    generalize session.get? name = binding? at hname
    cases hname with
    | none => exact h
    | some hrecord => exact h.set hrecord
  | setVariable name key value =>
    rw [note, Session.perform]
    have hname := h name
    generalize List.lookup name ledger = record? at hname
    generalize session.get? name = binding? at hname
    cases hname with
    | none => exact h
    | some hrecord => exact h.set (hrecord.setVariable key value)
  | describe | tellVariable | launch | operate | setHostVariable | make =>
    refine h.of_get? fun name => (session.change_perform _).get?_eq ?_ ?_
    · intro hbinds
      cases hbinds
    · intro key value hsets
      cases hsets

theorem Tracks.performAll (h : ledger.Tracks session) (actions : List Action) :
    Tracks (ledger.noteAll session actions) (session.performAll actions) := by
  induction actions generalizing ledger session with
  | nil => exact h
  | cons action actions ih => exact ih (h.perform action)

/-! ## Proper records -/

/-- All records name proper variables only. -/
def Proper (ledger : Ledger) : Prop :=
  ∀ name record, ledger.lookup name = some record → record.Proper

theorem Proper.keep (h : ledger.Proper) (hmade : ∀ record, made? = some record → record.Proper) :
    Proper (ledger.keep name made?) := by
  intro other record hrecord
  rw [lookup_keep] at hrecord
  split at hrecord
  · rcases Option.or_eq_some_iff.mp hrecord with hrecord | ⟨-, hrecord⟩
    · exact hmade record hrecord
    · exact h other record hrecord
  · exact h other record hrecord

theorem Proper.note (h : ledger.Proper) (hhost : host.environment.Proper)
    (haction : action.Proper) : Proper (ledger.note host action) := by
  cases action with
  | bindLauncher | bindCopy => exact h.keep fun record => Record.Proper.of_made? hhost
  | discover name path =>
    rw [Ledger.note]
    split
    · exact h.keep fun record => Record.Proper.of_made? hhost
    · exact h
  | duplicate name new => exact h.keep fun record hrecord => h name record hrecord
  | setVariable name key value =>
    refine h.keep fun record hrecord => ?_
    obtain ⟨before, hbefore, rfl⟩ := Option.map_eq_some_iff.mp hrecord
    exact (h name before hbefore).write haction value
  | describe | tellVariable | launch | operate | setHostVariable | make => exact h

theorem Proper.noteAll (h : ledger.Proper) (hhost : session.host.environment.Proper)
    (hactions : ∀ action ∈ actions, action.Proper) : Proper (ledger.noteAll session actions) := by
  induction actions generalizing ledger session with
  | nil => exact h
  | cons action actions ih =>
    have haction := hactions action List.mem_cons_self
    exact ih (h.note hhost haction) (Session.environment_perform hhost haction)
      fun later hlater => hactions later (List.mem_cons_of_mem _ hlater)

/-! ## Runs -/

end Ledger

end RevisionControl
