import RevisionControl.Operation

/-!
# Proofs: the processes of an operation

What an operation may do on the host: it starts processes with its launcher, one after the other,
and nothing else (`Launcher.Starts`). Every call it leaves is the launcher's own, and each operation
has a limit on how many there are (`Launcher.StartsAtMost`). Both are shown for one launch and
carried through the sequencing of actions.
-/

namespace RevisionControl

open Host

/-! ## Running actions -/

/-- A sequence that succeeds has a first part that succeeds. -/
theorem ok_of_bind_ok {ε α β : Type} {first : Except ε α} {next : α → Except ε β} {value : β}
    (h : first >>= next = .ok value) : ∃ middle, first = .ok middle ∧ next middle = .ok value := by
  cases first with
  | error reason => cases h
  | ok middle => exact ⟨middle, rfl, h⟩

namespace HostM

variable {ε δ α β : Type}

/-- An action after another starts on the host that the first leaves, and not at all if that one
fails. -/
theorem run_bind (action : HostM ε α) (next : α → HostM ε β) (host : Host) :
    (action >>= next).run host =
      match action.run host with
      | (.ok value, after) => (next value).run after
      | (.error error, after) => (.error error, after) := by
  show (match action.run host with
    | (outcome, after) => (ExceptT.bindCont next outcome).run after) = _
  obtain ⟨outcome, after⟩ := action.run host
  cases outcome <;> rfl

theorem run_bind_ok {action : HostM ε α} {host after : Host} {value : α}
    (h : action.run host = (.ok value, after)) (next : α → HostM ε β) :
    (action >>= next).run host = (next value).run after := by
  rw [run_bind, h]

theorem run_bind_error {action : HostM ε α} {host after : Host} {error : ε}
    (h : action.run host = (.error error, after)) (next : α → HostM ε β) :
    (action >>= next).run host = (.error error, after) := by
  rw [run_bind, h]

/-- The outcome of an action is given even where it is a failure. -/
theorem run_outcome (action : HostM δ α) (host : Host) :
    (Host.outcome action : HostM ε (Except δ α)).run host =
      (.ok (action.run host).1, (action.run host).2) := rfl

/-- An action that fails for a reason of another kind leaves the same host. -/
theorem run_lift (wrap : Fault → ε) (action : HostM Fault α) (host : Host) :
    (Host.lift wrap action).run host =
      ((action.run host).1.mapError wrap, (action.run host).2) := rfl

/-! ### What actions yield -/

/-- Whatever the host, the outcome of an action satisfies a condition. -/
def Yields (action : HostM ε α) (condition : Except ε α → Prop) : Prop :=
  ∀ host, condition (action.run host).1

theorem Yields.bind {action : HostM ε α} {next : α → HostM ε β} {middle : Except ε α → Prop}
    {condition : Except ε β → Prop} (first : Yields action middle)
    (ok : ∀ value, middle (.ok value) → Yields (next value) condition)
    (error : ∀ reason, middle (.error reason) → condition (.error reason)) :
    Yields (action >>= next) condition := by
  intro host
  have h := first host
  rw [run_bind]
  generalize action.run host = ran at h ⊢
  obtain ⟨outcome, after⟩ := ran
  cases outcome with
  | ok value => exact ok value h after
  | error reason => exact error reason h

/-- What follows an outcome that is given even where it is a failure. -/
theorem Yields.outcome_bind {action : HostM δ α} {next : Except δ α → HostM ε β}
    {middle : Except δ α → Prop} {condition : Except ε β → Prop} (first : Yields action middle)
    (second : ∀ outcome, middle outcome → Yields (next outcome) condition) :
    Yields (Host.outcome action >>= next) condition :=
  fun host => second _ (first host) (action.run host).2

end HostM

/-! ## One process -/

namespace Host

variable {command : Command} {host : Host} {call : Call}

/-- A process is started, or the host refuses and stays as it is. -/
theorem run_start (command : Command) (host : Host) :
    (Host.start command).run host =
      match host.prepare command with
      | .error fault => (.error fault, host)
      | .ok call => (.ok (host.run call).1, (host.run call).2) := rfl

theorem start_of_refused {fault : Fault} (h : host.prepare command = .error fault) :
    (Host.start command).run host = (.error fault, host) := by
  rw [run_start, h]

theorem start_of_prepared (h : host.prepare command = .ok call) :
    (Host.start command).run host = (.ok (host.run call).1, (host.run call).2) := by
  rw [run_start, h]

/-- A call is recorded behind those before it. -/
theorem run_calls (host : Host) (call : Call) :
    (host.run call).2.calls = host.calls ++ [call] := by
  unfold Host.run Host.nextReply
  cases host.replies <;> rfl

theorem run_environment (host : Host) (call : Call) :
    (host.run call).2.environment = host.environment := by
  unfold Host.run Host.nextReply
  cases host.replies <;> rfl

/-- The reply of the process before which some others are started. -/
def replyAfter (host : Host) (earlier : Nat) : Reply :=
  host.replies.getD earlier host.lastReply

theorem run_reply (host : Host) (call : Call) : (host.run call).1 = host.replyAfter 0 := by
  unfold Host.run Host.nextReply replyAfter
  cases host.replies <;> rfl

/-- A process takes one reply from those to come. -/
theorem run_replyAfter (host : Host) (call : Call) (earlier : Nat) :
    (host.run call).2.replyAfter earlier = host.replyAfter (earlier + 1) := by
  unfold Host.run Host.nextReply replyAfter
  cases hreplies : host.replies with
  | nil => simp only [hreplies, List.getD_nil]
  | cons reply more => simp only [List.getD_cons_succ]

/-- The host as some calls, one after the other, leave it. -/
def runAll (host : Host) (calls : List Call) : Host :=
  calls.foldl (fun host call => (host.run call).2) host

end Host

namespace Launcher

variable {launcher : Launcher} {host middle after : Host} {call : Call} {calls more : List Call}
  {arguments : List String}

/-- What is asked for before a process of a launcher is started, in this order. -/
theorem prepare_eq (host : Host) (launcher : Launcher) (arguments : List String) :
    host.prepare (launcher.command arguments) =
      if (launcher.command arguments).holdsNul then .error .nulInData
      else host.files.resolveDirectory host.directory launcher.root >>= fun directory =>
        checkExecutable host.files directory launcher.executable >>= fun _ =>
          .ok ⟨launcher.executable, arguments, directory, launcher.environment, true⟩ := by
  unfold Host.prepare
  cases (launcher.command arguments).holdsNul with
  | true => rfl
  | false =>
    show (host.files.resolveDirectory host.directory launcher.root >>= fun directory =>
      (checkExecutable host.files directory launcher.executable).map (fun () => launcher.executable)
        >>= fun executable => _) = _
    refine congrArg _ (funext fun directory => ?_)
    cases checkExecutable host.files directory launcher.executable <;> rfl

/-- What a launch can come to: the host refuses and stays as it is, or a call is made. -/
theorem run_cases (launcher : Launcher) (arguments : List String) (host : Host) :
    (∃ fault, host.prepare (launcher.command arguments) = .error fault ∧
      (launcher.run arguments).run host = (.error (.io fault), host)) ∨
    (∃ call, host.prepare (launcher.command arguments) = .ok call ∧
      (launcher.run arguments).run host =
        (result (launcher.describe arguments) (host.run call).1, (host.run call).2)) := by
  cases prepared : host.prepare (launcher.command arguments) with
  | error fault =>
    left
    refine ⟨fault, rfl, HostM.run_bind_error ?_ _⟩
    rw [HostM.run_lift, start_of_refused prepared]
    rfl
  | ok call =>
    right
    refine ⟨call, rfl, ?_⟩
    have started : (Host.lift Error.io (Host.start (launcher.command arguments))).run host =
        (.ok (host.run call).1, (host.run call).2) := by
      rw [HostM.run_lift, start_of_prepared prepared]
      rfl
    rw [run, HostM.run_bind_ok started]
    rfl

/-! ## Processes in a row -/

/-- From a host on, a launcher makes some calls, one after the other, which leave another host.
Nothing else happens to the host. -/
inductive Starts (launcher : Launcher) : Host → List Call → Host → Prop where
  /-- No call is made. -/
  | none (host : Host) : Starts launcher host [] host
  /-- A call is made, and others after it. -/
  | call {host after : Host} {arguments : List String} {call : Call} {calls : List Call}
      (prepared : host.prepare (launcher.command arguments) = .ok call)
      (rest : Starts launcher (host.run call).2 calls after) :
      Starts launcher host (call :: calls) after

theorem Starts.append (h : launcher.Starts host calls middle)
    (h' : launcher.Starts middle more after) : launcher.Starts host (calls ++ more) after := by
  induction h with
  | none => exact h'
  | call prepared _ ih => exact .call prepared (ih h')

theorem Starts.calls_eq (h : launcher.Starts host calls after) :
    after.calls = host.calls ++ calls := by
  induction h with
  | none => simp
  | call _ _ ih => rw [ih, Host.run_calls, List.append_assoc, List.singleton_append]

/-- Processes leave the variables of the host alone. -/
theorem Starts.environment_eq (h : launcher.Starts host calls after) :
    after.environment = host.environment := by
  induction h with
  | none => rfl
  | call _ _ ih => rw [ih, Host.run_environment]

/-- Every call was prepared for the launcher on the host as the calls before it leave it. -/
theorem Starts.prepared {earlier later : List Call}
    (h : launcher.Starts host (earlier ++ call :: later) after) :
    ∃ arguments, (host.runAll earlier).prepare (launcher.command arguments) = .ok call := by
  induction earlier generalizing host with
  | nil =>
    cases h with
    | call prepared _ => exact ⟨_, prepared⟩
  | cons first earlier ih =>
    cases h with
    | call _ rest => exact ih rest

/-! ## How many processes an action starts -/

variable {ε δ α β : Type} {limit few many : Nat}

/-- All that an action does to a host is that a launcher makes calls, and not more than a limit. -/
def StartsAtMost (launcher : Launcher) (limit : Nat) (action : HostM ε α) : Prop :=
  ∀ host, ∃ calls, launcher.Starts host calls (action.run host).2 ∧ calls.length ≤ limit

/-- An action that leaves every host as it is starts nothing. -/
theorem StartsAtMost.of_unchanged {action : HostM ε α}
    (h : ∀ host, (action.run host).2 = host) : launcher.StartsAtMost 0 action := by
  intro host
  refine ⟨[], ?_, Nat.le_refl 0⟩
  rw [h host]
  exact .none host

theorem StartsAtMost.mono {action : HostM ε α} (h : launcher.StartsAtMost few action)
    (le : few ≤ many) : launcher.StartsAtMost many action := by
  intro host
  obtain ⟨calls, starts, few_calls⟩ := h host
  exact ⟨calls, starts, Nat.le_trans few_calls le⟩

theorem StartsAtMost.bind {action : HostM ε α} {next : α → HostM ε β}
    (first : launcher.StartsAtMost few action)
    (second : ∀ value, launcher.StartsAtMost many (next value)) :
    launcher.StartsAtMost (few + many) (action >>= next) := by
  intro host
  obtain ⟨calls, starts, le⟩ := first host
  rw [HostM.run_bind]
  generalize action.run host = ran at starts ⊢
  obtain ⟨outcome, middle⟩ := ran
  cases outcome with
  | ok value =>
    obtain ⟨more, starts', le'⟩ := second value middle
    refine ⟨calls ++ more, starts.append starts', ?_⟩
    rw [List.length_append]
    omega
  | error reason => exact ⟨calls, starts, by omega⟩

theorem StartsAtMost.map {action : HostM ε α} (f : α → β)
    (h : launcher.StartsAtMost limit action) : launcher.StartsAtMost limit (f <$> action) := by
  rw [map_eq_pure_bind]
  exact h.bind fun _ => .of_unchanged fun _ => rfl

theorem StartsAtMost.outcome {action : HostM δ α} (h : launcher.StartsAtMost limit action) :
    launcher.StartsAtMost limit (Host.outcome action : HostM ε (Except δ α)) :=
  fun host => h host

theorem startsAtMost_run (launcher : Launcher) (arguments : List String) :
    launcher.StartsAtMost 1 (launcher.run arguments) := by
  intro host
  rcases launcher.run_cases arguments host with ⟨_, _, ran⟩ | ⟨call, prepared, ran⟩
  · rw [ran]
    exact ⟨[], .none host, Nat.zero_le 1⟩
  · rw [ran]
    exact ⟨[call], .call prepared (.none _), Nat.le_refl 1⟩

theorem startsAtMost_runTrimmed (launcher : Launcher) (arguments : List String) :
    launcher.StartsAtMost 1 (launcher.runTrimmed arguments) :=
  (launcher.startsAtMost_run arguments).bind fun _ => .of_unchanged fun _ => rfl

end Launcher

end RevisionControl
