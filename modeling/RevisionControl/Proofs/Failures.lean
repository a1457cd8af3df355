import RevisionControl.Proofs.DefaultBranch

/-!
# Proofs: failures of the processes of an operation

An operation launches its tool some times, one after the other, and what it launches next depends
only on what came of the launches before (`Plan`). A launch that fails ends the operation with its
own failure, unless the failure is forgiven (`Plan.Stops`). The plan is the same for every host, so
that a launch which the host refuses is one of the plan like any other, though it leaves no trace.
-/

namespace RevisionControl

open Host

/-! ## Attempts -/

/-- One launch of a tool. -/
structure Attempt where
  /-- The arguments. -/
  arguments : List String
  /-- Why the host refused to start a process, or else the call and what the process did. -/
  course : Except Fault (Call × Reply)

namespace Attempt

variable {launcher : Launcher} {attempt : Attempt} {error : Error}

/-- The call that was made, if the process was started. -/
def call? (attempt : Attempt) : Option Call := attempt.course.toOption.map Prod.fst

/-- What a launch gives. -/
def outcome (launcher : Launcher) (attempt : Attempt) : Except Error String :=
  match attempt.course with
  | .error fault => .error (.io fault)
  | .ok (_, reply) => Launcher.result (launcher.describe attempt.arguments) reply

/-- A launch that fails, and the failure. -/
inductive FailsWith (launcher : Launcher) (attempt : Attempt) : Error → Prop where
  /-- The process is not started. -/
  | refused {fault : Fault} (h : attempt.course = .error fault) :
      FailsWith launcher attempt (.io fault)
  /-- The process ends with another code than zero, or by a signal. -/
  | unsuccessful {call : Call} {reply : Reply} (h : attempt.course = .ok (call, reply))
      (hexit : reply.exit ≠ .code 0) :
      FailsWith launcher attempt (.commandFailed {
        command := " ".intercalate (launcher.executable :: attempt.arguments)
        exitCode := reply.exit.number
        stdout := Text.Utf8.decodeLossy reply.stdout
        stderr := Text.Utf8.decodeLossy reply.stderr })
  /-- The process succeeds, and what it prints is no text. -/
  | undecodable {call : Call} {reply : Reply} {fault : Text.Utf8.Fault}
      (h : attempt.course = .ok (call, reply)) (hexit : reply.exit = .code 0)
      (htext : Text.Utf8.decode? reply.stdout = .error fault) :
      FailsWith launcher attempt (.notUtf8 fault)

theorem outcome_eq_error_iff :
    attempt.outcome launcher = .error error ↔ attempt.FailsWith launcher error := by
  constructor
  · intro h
    unfold outcome at h
    split at h
    · rename_i hcourse
      cases h
      exact .refused hcourse
    · rename_i call reply hcourse
      unfold Launcher.result at h
      split at h
      · rename_i hexit
        split at h
        · cases h
        · rename_i htext
          cases h
          exact .undecodable hcourse hexit htext
      · rename_i hexit
        cases h
        exact .unsuccessful hcourse hexit
  · intro h
    cases h with
    | refused h => simp only [outcome, h]
    | unsuccessful h hexit =>
      simp only [outcome, h, Launcher.result, if_neg hexit]
      rfl
    | undecodable h hexit htext => simp only [outcome, h, Launcher.result, if_pos hexit, htext]

theorem FailsWith.command_eq {failure : CommandFailure}
    (h : attempt.FailsWith launcher (.commandFailed failure)) :
    failure.command = " ".intercalate (launcher.executable :: attempt.arguments) := by
  cases h with
  | unsuccessful => rfl

end Attempt

namespace Launcher

/-- What a launch comes to on a host. -/
def attempt (launcher : Launcher) (host : Host) (arguments : List String) : Attempt where
  arguments := arguments
  course := (host.prepare (launcher.command arguments)).map fun call => (call, (host.run call).1)

variable {launcher : Launcher} {host : Host} {arguments : List String}

theorem run_eq_outcome :
    ((launcher.run arguments).run host).1 = (launcher.attempt host arguments).outcome launcher := by
  rcases launcher.run_cases arguments host with ⟨fault, hprepare, hrun⟩ | ⟨call, hprepare, hrun⟩
  · rw [hrun, Attempt.outcome, attempt, hprepare]
    rfl
  · rw [hrun, Attempt.outcome, attempt, hprepare]
    rfl

theorem run_calls_eq :
    ((launcher.run arguments).run host).2.calls =
      host.calls ++ (launcher.attempt host arguments).call?.toList := by
  rcases launcher.run_cases arguments host with ⟨fault, hprepare, hrun⟩ | ⟨call, hprepare, hrun⟩
  · simp [hrun, Attempt.call?, attempt, hprepare, Except.map, Except.toOption]
  · simp [hrun, run_calls, Attempt.call?, attempt, hprepare, Except.map, Except.toOption]

/-- A call has the arguments of its launch, and the executable of the launcher. -/
theorem attempt_call {call : Call} {reply : Reply}
    (h : (launcher.attempt host arguments).course = .ok (call, reply)) :
    call.executable = launcher.executable ∧ call.arguments = arguments := by
  cases hprepare : host.prepare (launcher.command arguments) with
  | error fault => simp [attempt, hprepare, Except.map] at h
  | ok prepared =>
    simp only [attempt, hprepare, Except.map, Except.ok.injEq, Prod.mk.injEq] at h
    obtain ⟨rfl, -⟩ := h
    rw [prepare_eq] at hprepare
    split at hprepare
    · cases hprepare
    · obtain ⟨directory, -, h⟩ := ok_of_bind_ok hprepare
      obtain ⟨_, -, h⟩ := ok_of_bind_ok h
      cases h
      exact ⟨rfl, rfl⟩

/-- No process is started if it would be handed the character zero. -/
theorem prepare_of_holdsNul
    (h : (∃ text ∈ arguments, holdsNul text = true) ∨ launcher.environment.holdNul = true) :
    host.prepare (launcher.command arguments) = .error .nulInData := by
  have hcommand : (launcher.command arguments).holdsNul = true := by
    rcases h with ⟨text, hmem, hnul⟩ | hnul
    · have hany : arguments.any holdsNul = true := List.any_eq_true.mpr ⟨text, hmem, hnul⟩
      simp [Command.holdsNul, command, hany]
    · simp [Command.holdsNul, command, hnul]
  rw [prepare_eq, if_pos hcommand]

/-- No process is started where there is no directory for it. -/
theorem prepare_of_no_directory {fault : Fault}
    (h : host.files.resolveDirectory host.directory launcher.root = .error fault) :
    ∃ refusal, host.prepare (launcher.command arguments) = .error refusal := by
  rw [prepare_eq, h]
  split
  · exact ⟨_, rfl⟩
  · exact ⟨fault, rfl⟩

end Launcher

/-! ## Plans -/

/-- What an action launches, depending on what came of the launches before. -/
inductive Plan (α : Type) where
  /-- Nothing more is launched. -/
  | done (outcome : Except Error α)
  /-- The tool is launched with some arguments, and then it depends. -/
  | launch (arguments : List String) (next : Except Error String → Plan α)

namespace Plan

variable {α β : Type}

/-- Goes through a plan. -/
def run (launcher : Launcher) : Plan α → Host → Except Error α × Host
  | done outcome, host => (outcome, host)
  | launch arguments next, host =>
    let ran := (launcher.run arguments).run host
    (next ran.1).run launcher ran.2

/-- The launches of a plan on a host, in order. -/
def attempts (launcher : Launcher) : Plan α → Host → List Attempt
  | done _, _ => []
  | launch arguments next, host =>
    let ran := (launcher.run arguments).run host
    launcher.attempt host arguments :: (next ran.1).attempts launcher ran.2

/-- A plan, and another that depends on its outcome. -/
def andThen : Plan α → (Except Error α → Plan β) → Plan β
  | done outcome, next => next outcome
  | launch arguments first, next => launch arguments fun outcome => (first outcome).andThen next

variable {launcher : Launcher} {host : Host} {plan : Plan α} {next : Except Error α → Plan β}

theorem run_andThen :
    (plan.andThen next).run launcher host =
      (next (plan.run launcher host).1).run launcher (plan.run launcher host).2 := by
  induction plan generalizing host with
  | done outcome => rfl
  | launch arguments first ih => exact ih _

/-- The launches for which a process is started leave their calls, in order. -/
theorem calls_run :
    (plan.run launcher host).2.calls =
      host.calls ++ (plan.attempts launcher host).filterMap Attempt.call? := by
  induction plan generalizing host with
  | done outcome => simp [run, attempts]
  | launch arguments first ih =>
    rw [run, attempts, ih, Launcher.run_calls_eq, List.append_assoc]
    cases hcall : (launcher.attempt host arguments).call? with
    | none => rw [List.filterMap_cons_none hcall, Option.toList_none, List.nil_append]
    | some call => rw [List.filterMap_cons_some hcall, Option.toList_some, List.singleton_append]

theorem exists_attempt_of_mem {attempt : Attempt} (h : attempt ∈ plan.attempts launcher host) :
    ∃ start, attempt = launcher.attempt start attempt.arguments := by
  induction plan generalizing host with
  | done outcome => simp [attempts] at h
  | launch arguments first ih =>
    rcases List.mem_cons.mp h with rfl | h
    · exact ⟨host, rfl⟩
    · exact ih _ h

/-- A plan stops at a launch that fails, with its failure, unless the failure is forgiven. And if no
launch fails otherwise, it does not fail as a command does. -/
inductive Stops (forgiven : List String → Error → Prop) : Plan α → Prop where
  /-- There is no launch that could fail. -/
  | done {outcome : Except Error α}
      (h : ∀ failure, outcome ≠ .error (.commandFailed failure)) : Stops forgiven (done outcome)
  /-- A launch ends the plan if it fails unforgiven. -/
  | launch {arguments : List String} {next : Except Error String → Plan α}
      (hstop : ∀ error, ¬ forgiven arguments error → next (.error error) = .done (.error error))
      (hok : ∀ output, Stops forgiven (next (.ok output)))
      (hforgiven : ∀ error, forgiven arguments error → Stops forgiven (next (.error error))) :
      Stops forgiven (launch arguments next)

variable {forgiven : List String → Error → Prop}

/-- A plan whose success leads to another. -/
def bind (plan : Plan α) (next : α → Plan β) : Plan β :=
  plan.andThen fun
    | .ok value => next value
    | .error error => done (.error error)

theorem Stops.bind {next : α → Plan β} (h : plan.Stops forgiven)
    (hnext : ∀ value, (next value).Stops forgiven) : (plan.bind next).Stops forgiven := by
  induction h with
  | @done outcome h =>
    cases outcome with
    | ok value => exact hnext value
    | error error => exact .done fun failure hfail => h failure (by cases hfail; rfl)
  | @launch arguments first hstop hok hforgiven ihok ihforgiven =>
    refine .launch (fun error hnot => ?_) ihok ihforgiven
    rw [hstop error hnot]
    rfl

/-- A plan after which some failures are caught, among them those of commands. -/
theorem Stops.recover {caught : Error → Prop} (h : plan.Stops forgiven)
    (hle : ∀ arguments error, forgiven arguments error → caught error)
    (hok : ∀ value, (next (.ok value)).Stops fun _ => caught)
    (hcaught : ∀ error, caught error → (next (.error error)).Stops fun _ => caught)
    (hstop : ∀ error, ¬ caught error → next (.error error) = .done (.error error)) :
    (plan.andThen next).Stops fun _ => caught := by
  induction h with
  | @done outcome h =>
    cases outcome with
    | ok value => exact hok value
    | error error =>
      by_cases hcatch : caught error
      · exact hcaught error hcatch
      · rw [andThen, hstop error hcatch]
        exact .done fun failure hfail => h failure (by cases hfail; rfl)
  | @launch arguments first hends hok hforgiven ihok ihforgiven =>
    refine .launch (fun error hnot => ?_) ihok fun error hcatch => ?_
    · rw [hends error (mt (hle arguments error) hnot)]
      exact hstop error hnot
    · by_cases hfew : forgiven arguments error
      · exact ihforgiven error hfew
      · rw [hends error hfew]
        exact hcaught error hcatch

/-- What is launched goes with the outcome: a launch that fails unforgiven is the last, and its
failure is the outcome; and a failure of a command is one of the last launch. -/
theorem Stops.ends (h : plan.Stops forgiven) {before later : List Attempt} {attempt : Attempt}
    {error : Error} (hsplit : plan.attempts launcher host = before ++ attempt :: later)
    (hfails : attempt.FailsWith launcher error) (hforgiven : ¬ forgiven attempt.arguments error) :
    later = [] ∧ (plan.run launcher host).1 = .error error := by
  induction h generalizing host before with
  | done h =>
    rw [attempts] at hsplit
    cases before <;> cases hsplit
  | @launch arguments next hstop hok hcaught ihok ihcaught =>
    rw [attempts, Launcher.run_eq_outcome] at hsplit
    rw [run, Launcher.run_eq_outcome]
    cases before with
    | nil =>
      -- The launch is the one that fails.
      obtain ⟨rfl, hlater⟩ := List.cons.inj hsplit
      rw [Attempt.outcome_eq_error_iff.mpr hfails, hstop error hforgiven] at hlater ⊢
      exact ⟨hlater.symm, rfl⟩
    | cons first before =>
      obtain ⟨-, hrest⟩ := List.cons.inj hsplit
      cases hfirst : (launcher.attempt host arguments).outcome launcher with
      | ok output =>
        rw [hfirst] at hrest
        exact ihok output hrest
      | error reason =>
        rw [hfirst] at hrest
        by_cases hcatch : forgiven arguments reason
        · exact ihcaught reason hcatch hrest
        · rw [hstop reason hcatch, attempts] at hrest
          cases before <;> cases hrest

theorem Stops.command (h : plan.Stops forgiven) {failure : CommandFailure}
    (hfail : (plan.run launcher host).1 = .error (.commandFailed failure)) :
    ∃ before attempt, plan.attempts launcher host = before ++ [attempt] ∧
      attempt.FailsWith launcher (.commandFailed failure) := by
  induction h generalizing host with
  | done h => exact absurd hfail (h failure)
  | @launch arguments next hstop hok hcaught ihok ihcaught =>
    rw [run, Launcher.run_eq_outcome] at hfail
    rw [attempts, Launcher.run_eq_outcome]
    cases hfirst : (launcher.attempt host arguments).outcome launcher with
    | ok output =>
      rw [hfirst] at hfail
      obtain ⟨before, attempt, hsplit, hfails⟩ := ihok output hfail
      exact ⟨_ :: before, attempt, congrArg _ hsplit, hfails⟩
    | error reason =>
      rw [hfirst] at hfail
      by_cases hcatch : forgiven arguments reason
      · obtain ⟨before, attempt, hsplit, hfails⟩ := ihcaught reason hcatch hfail
        exact ⟨_ :: before, attempt, congrArg _ hsplit, hfails⟩
      · rw [hstop reason hcatch] at hfail
        cases hfail
        refine ⟨[], _, ?_, Attempt.outcome_eq_error_iff.mp hfirst⟩
        rw [hstop _ hcatch]
        rfl

end Plan

namespace Launcher

variable {α β : Type} {launcher : Launcher} {forgiven : List String → Error → Prop}
  {action : HostM Error α}

/-- An action goes by a plan, which is the same for every host and stops at the first failure. -/
def Follows (launcher : Launcher) (forgiven : List String → Error → Prop)
    (action : HostM Error α) : Prop :=
  ∃ plan : Plan α, plan.Stops forgiven ∧ ∀ host, action.run host = plan.run launcher host

theorem Follows.done {outcome : Except Error α} (hrun : ∀ host, action.run host = (outcome, host))
    (h : ∀ failure, outcome ≠ .error (.commandFailed failure)) :
    launcher.Follows forgiven action :=
  ⟨.done outcome, .done h, hrun⟩

theorem Follows.pure (value : α) : launcher.Follows forgiven (pure value) :=
  .done (fun _ => rfl) fun _ h => by cases h

/-- Plans for what is done after any outcome, where failures that are not caught are passed on. -/
theorem exists_plans {caught : Error → Prop} {next : Except Error α → HostM Error β}
    (hok : ∀ value, launcher.Follows forgiven (next (.ok value)))
    (hcaught : ∀ error, caught error → launcher.Follows forgiven (next (.error error)))
    (hstop : ∀ error, ¬ caught error → next (.error error) = throw error) :
    ∃ plans : Except Error α → Plan β,
      (∀ outcome host, (next outcome).run host = (plans outcome).run launcher host) ∧
      (∀ value, (plans (.ok value)).Stops forgiven) ∧
      (∀ error, caught error → (plans (.error error)).Stops forgiven) ∧
      ∀ error, ¬ caught error → plans (.error error) = .done (.error error) := by
  obtain ⟨plans, hplans⟩ := Classical.axiomOfChoice hok
  have herrors : ∀ error, ∃ plan : Plan β,
      (∀ host, (next (.error error)).run host = plan.run launcher host) ∧
      (caught error → plan.Stops forgiven) ∧ (¬ caught error → plan = .done (.error error)) := by
    intro error
    by_cases hcatch : caught error
    · obtain ⟨plan, hplan, hrun⟩ := hcaught error hcatch
      exact ⟨plan, hrun, fun _ => hplan, absurd hcatch⟩
    · refine ⟨.done (.error error), fun host => ?_, fun h => absurd h hcatch, fun _ => rfl⟩
      rw [hstop error hcatch]
      rfl
  obtain ⟨recoveries, hrecoveries⟩ := Classical.axiomOfChoice herrors
  refine ⟨fun | .ok value => plans value | .error error => recoveries error, ?_,
    fun value => (hplans value).1, fun error => (hrecoveries error).2.1,
    fun error => (hrecoveries error).2.2⟩
  intro outcome host
  cases outcome with
  | ok value => exact (hplans value).2 host
  | error error => exact (hrecoveries error).1 host

/-- What is done after a launch. -/
theorem Follows.launch {arguments : List String} {next : Except Error String → HostM Error α}
    (hok : ∀ output, launcher.Follows forgiven (next (.ok output)))
    (hforgiven : ∀ error, forgiven arguments error →
      launcher.Follows forgiven (next (.error error)))
    (hstop : ∀ error, ¬ forgiven arguments error → next (.error error) = throw error) :
    launcher.Follows forgiven (Host.outcome (launcher.run arguments) >>= next) := by
  obtain ⟨plans, hrun, hplans, hrecoveries, hends⟩ := exists_plans hok hforgiven hstop
  exact ⟨.launch arguments plans, .launch hends hplans hrecoveries, fun host => hrun _ _⟩

/-- A launch by itself, where its failures are not forgiven. -/
theorem Follows.run {arguments : List String} (h : ∀ error, ¬ forgiven arguments error) :
    launcher.Follows forgiven (launcher.run arguments) := by
  refine ⟨.launch arguments .done, .launch ?_ ?_ ?_, fun host => rfl⟩
  · exact fun _ _ => rfl
  · exact fun output => .done fun _ hfail => by cases hfail
  · exact fun error hforgiven => absurd hforgiven (h error)

theorem Follows.bind {next : α → HostM Error β} (first : launcher.Follows forgiven action)
    (second : ∀ value, launcher.Follows forgiven (next value)) :
    launcher.Follows forgiven (action >>= next) := by
  obtain ⟨plan, hplan, hrun⟩ := first
  obtain ⟨plans, hplans⟩ := Classical.axiomOfChoice second
  refine ⟨plan.bind plans, hplan.bind fun value => (hplans value).1, fun host => ?_⟩
  rw [HostM.run_bind, hrun host, Plan.bind, Plan.run_andThen]
  rcases plan.run launcher host with ⟨error | value, after⟩
  · rfl
  · exact (hplans value).2 after

/-- What is done after an action some of whose failures are caught, among them those of commands. -/
theorem Follows.recover {caught : Error → Prop} {next : Except Error α → HostM Error β}
    (first : launcher.Follows forgiven action)
    (hle : ∀ arguments error, forgiven arguments error → caught error)
    (hok : ∀ value, launcher.Follows (fun _ => caught) (next (.ok value)))
    (hcaught : ∀ error, caught error → launcher.Follows (fun _ => caught) (next (.error error)))
    (hstop : ∀ error, ¬ caught error → next (.error error) = throw error) :
    launcher.Follows (fun _ => caught) (Host.outcome action >>= next) := by
  obtain ⟨plan, hplan, hrun⟩ := first
  obtain ⟨plans, hplans, hvalues, hrecoveries, hends⟩ := exists_plans hok hcaught hstop
  refine ⟨plan.andThen plans, hplan.recover hle hvalues hrecoveries hends, fun host => ?_⟩
  rw [HostM.run_bind, HostM.run_outcome, Plan.run_andThen, hrun host]
  exact hplans _ _

theorem Follows.map (f : α → β) (h : launcher.Follows forgiven action) :
    launcher.Follows forgiven (f <$> action) := by
  rw [map_eq_pure_bind]
  exact h.bind fun _ => .pure _

theorem Follows.runTrimmed {arguments : List String} (h : ∀ error, ¬ forgiven arguments error) :
    launcher.Follows forgiven (launcher.runTrimmed arguments) :=
  (Follows.run h).bind fun _ => .pure _

end Launcher

/-! ## Operations -/

/-- No failure is forgiven. -/
def Unforgiving (_ : List String) (_ : Error) : Prop := False

theorem chooseListedRemote_ne_commandFailed (listing preferred : String)
    (failure : CommandFailure) :
    chooseListedRemote listing preferred ≠ .error (.commandFailed failure) := by
  unfold chooseListedRemote chooseRemote
  split
  · simp
  · split <;> simp

open Launcher

theorem follows_chooseListedRemote {launcher : Launcher} {forgiven : List String → Error → Prop}
    (listing preferred : String) :
    launcher.Follows forgiven (ExceptT.mk (pure (chooseListedRemote listing preferred))) :=
  .done (fun _ => rfl) (chooseListedRemote_ne_commandFailed listing preferred)

namespace Git

variable {git : Launcher}

/-- The current branch tracks no other: the exit code that Git has for that, of the query which
branch it tracks. -/
def TracksNone (arguments : List String) (error : Error) : Prop :=
  arguments = trackedQuery ∧ error.exitCode? = some notTrackingCode

/-- An exit code is that of a command, which is expected to fail. -/
theorem TracksNone.expected {arguments : List String} {error : Error}
    (h : TracksNone arguments error) : error.Expected := by
  obtain ⟨-, hcode⟩ := h
  cases error <;> simp_all [Error.exitCode?, Error.Expected]

theorem follows_headRevision : git.Follows Unforgiving (headRevision git) :=
  .runTrimmed fun _ => id

theorem follows_baseRevision : git.Follows Unforgiving (baseRevision git) := by
  refine (Follows.run fun _ => id).bind fun listing => ?_
  split
  · exact .pure _
  · exact follows_headRevision

theorem follows_branch : git.Follows Unforgiving (branch? git) :=
  (Follows.runTrimmed fun _ => id).bind fun _ => .pure _

theorem follows_remoteName : git.Follows TracksNone (remoteName git) := by
  refine Follows.launch (fun tracked => .pure _) (fun error hnone => ?_) fun error hnot => ?_
  · dsimp only
    rw [if_pos hnone.2]
    refine (Follows.run fun _ h => ?_).bind fun listing => follows_chooseListedRemote listing _
    simpa [trackedQuery] using h.1
  · exact if_neg fun hcode => hnot ⟨rfl, hcode⟩

theorem follows_recordedBranch : git.Follows TracksNone (recordedBranch git) := by
  refine follows_remoteName.bind fun remote => ?_
  refine (Follows.run fun _ h => by simpa [trackedQuery] using h.1).bind fun output => ?_
  split
  · exact .pure _
  · exact .done (fun _ => rfl) fun _ h => by cases h

theorem follows_remoteBranch : git.Follows TracksNone (remoteBranch git) := by
  refine follows_remoteName.bind fun remote => ?_
  refine (Follows.run fun _ h => by simpa [trackedQuery] using h.1).bind fun output => ?_
  split
  · exact .pure _
  · exact .done (fun _ => rfl) fun _ h => by cases h

theorem follows_localBranch : git.Follows TracksNone (localBranch git) := by
  refine (Follows.run fun _ h => by simpa [trackedQuery] using h.1).bind fun output => ?_
  split
  · exact .pure _
  · exact .done (fun _ => rfl) fun _ h => by cases h

/-- In the search for the default branch a failure that is expected is forgiven: it only ends its
strategy. -/
theorem follows_findBranch {strategies : List Strategy}
    (h : ∀ strategy ∈ strategies, git.Follows TracksNone (strategy.find git))
    (attempts : List String) :
    git.Follows (fun _ => Error.Expected) (findBranch git strategies attempts) := by
  induction strategies generalizing attempts with
  | nil => exact .done (fun _ => rfl) fun _ h => by cases h
  | cons strategy more ih =>
    have hmore := ih fun s hs => h s (List.mem_cons_of_mem _ hs)
    refine (h strategy List.mem_cons_self).recover (fun _ _ => TracksNone.expected) ?_ ?_ ?_
    · exact fun branch => .pure _
    · intro error hexpected
      dsimp only
      rw [if_pos ((leadsNowhere_iff error).mpr hexpected)]
      exact hmore _
    · intro error hnot
      exact if_neg (mt (leadsNowhere_iff error).mp hnot)

theorem follows_defaultBranch : git.Follows (fun _ => Error.Expected) (defaultBranch git) := by
  refine follows_findBranch (fun strategy h => ?_) []
  simp only [strategies, List.mem_cons, List.not_mem_nil, or_false] at h
  rcases h with rfl | rfl | rfl
  · exact follows_recordedBranch
  · exact follows_remoteBranch
  · exact follows_localBranch

/-- The search for the default branch never fails as a strategy is expected to. -/
theorem findBranch_not_expected {strategies : List Strategy} {attempts : List String} {host : Host}
    {error : Error} (h : ((findBranch git strategies attempts).run host).1 = .error error) :
    ¬ error.Expected := by
  induction strategies generalizing attempts host with
  | nil =>
    cases h
    exact id
  | cons strategy more ih =>
    rw [findBranch_cons] at h
    generalize (strategy.find git).run host = ran at h
    obtain ⟨outcome, after⟩ := ran
    cases outcome with
    | ok branch => cases h
    | error reason =>
      dsimp only at h
      split at h
      · exact ih h
      · rename_i hsettled
        cases h
        exact mt (leadsNowhere_iff error).mpr hsettled

/-- The lines that describe the two queries for the remote differ. -/
theorem describe_trackedQuery_ne (executable : String) :
    " ".intercalate (executable :: trackedQuery) ≠ " ".intercalate [executable, "remote"] := by
  intro h
  have hlisting : " ".intercalate [executable, "remote"] = executable ++ " " ++ "remote" := rfl
  have htracked : " ".intercalate (executable :: trackedQuery) =
      executable ++ " " ++ "rev-parse" ++ " " ++ "--verify" ++ " " ++ "--abbrev-ref" ++ " " ++
        "--symbolic-full-name" ++ " " ++ "@\x7bu\x7d" := rfl
  have hlength := congrArg String.length h
  rw [hlisting, htracked] at hlength
  simp only [String.length_append] at hlength
  have hremote : "remote".length = 6 := rfl
  have hverb : "rev-parse".length = 9 := rfl
  omega

/-- That no branch is tracked is never the failure of the search for the remote: the command that
lists the remotes is another one. -/
theorem remoteName_ne_tracksNone {host : Host} {attempt : Attempt} {error : Error}
    (hfails : attempt.FailsWith git error) (hnone : TracksNone attempt.arguments error) :
    ((remoteName git).run host).1 ≠ .error error := by
  intro h
  obtain ⟨harguments, hcode⟩ := hnone
  rw [remoteName, HostM.run_bind, HostM.run_outcome] at h
  generalize (git.run trackedQuery).run host = ran at h
  obtain ⟨outcome, middle⟩ := ran
  cases outcome with
  | ok tracked => cases h
  | error reason =>
    dsimp only at h
    split at h
    · -- The failure would be one of the command that lists the remotes.
      obtain ⟨failure, rfl⟩ : ∃ failure, error = .commandFailed failure := by
        cases error <;> simp_all [Error.exitCode?]
      rw [HostM.run_bind] at h
      have houtcome : ((git.run ["remote"]).run middle).1 =
          (git.attempt middle ["remote"]).outcome git := run_eq_outcome
      generalize (git.run ["remote"]).run middle = ran at h houtcome
      obtain ⟨outcome', after⟩ := ran
      cases outcome' with
      | ok names => exact chooseListedRemote_ne_commandFailed _ _ _ h
      | error reason' =>
        cases h
        have hcommand := (Attempt.outcome_eq_error_iff.mp houtcome.symm).command_eq
        rw [hfails.command_eq, harguments] at hcommand
        exact describe_trackedQuery_ne git.executable hcommand
    · rename_i hnot
      cases h
      exact hnot hcode

end Git

namespace Mercurial

variable {hg : Launcher}

theorem follows_headRevision : hg.Follows Unforgiving (headRevision hg) :=
  .runTrimmed fun _ => id

theorem follows_baseRevision : hg.Follows Unforgiving (baseRevision hg) := by
  refine (Follows.runTrimmed fun _ => id).bind fun base => ?_
  split
  · exact follows_headRevision
  · exact .pure _

theorem follows_remoteName : hg.Follows Unforgiving (remoteName hg) :=
  (Follows.run fun _ => id).bind fun listing => follows_chooseListedRemote listing _

/-- The bookmark is read from a file: nothing is launched, and no command fails. -/
theorem run_branch (host : Host) :
    ((branch? hg).run host).2 = host ∧
      ∀ failure, ((branch? hg).run host).1 ≠ .error (.commandFailed failure) := by
  rw [branch?, HostM.run_bind, HostM.run_outcome]
  have hread : ((Host.readText (bookmarkFile hg.root)).run host).2 = host := rfl
  rw [hread]
  generalize ((Host.readText (bookmarkFile hg.root)).run host).1 = content
  rcases content with fault | content
  · cases fault <;> exact ⟨rfl, fun _ h => by cases h⟩
  · exact ⟨rfl, fun _ h => by cases h⟩

end Mercurial

/-! ## Operations on working copies -/

/-- The failures of launches that an operation does not give as they are: that the current branch
tracks no other, when a remote is looked for; and whatever only ends a strategy, in the search for
the default branch. -/
def Operation.Forgives (tool : Tool) (operation : Operation) (arguments : List String)
    (error : Error) : Prop :=
  tool = .git ∧ (operation = .remoteName ∧ Git.TracksNone arguments error ∨
    operation = .defaultBranch ∧ error.Expected)

/-- A forgiven failure is one of a command. -/
theorem Operation.Forgives.expected {tool : Tool} {operation : Operation} {arguments : List String}
    {error : Error} (h : operation.Forgives tool arguments error) : error.Expected := by
  obtain ⟨-, ⟨-, hnone⟩ | ⟨-, hexpected⟩⟩ := h
  · exact hnone.expected
  · exact hexpected

theorem Operation.forgives_git_remoteName :
    Operation.remoteName.Forgives .git = Git.TracksNone := by
  funext arguments error
  simp [Operation.Forgives]

theorem Operation.forgives_git_defaultBranch :
    Operation.defaultBranch.Forgives .git = fun _ => Error.Expected := by
  funext arguments error
  simp [Operation.Forgives]

theorem Operation.forgives_eq_unforgiving {tool : Tool} {operation : Operation}
    (h : ¬ (tool = .git ∧ (operation = .remoteName ∨ operation = .defaultBranch))) :
    operation.Forgives tool = Unforgiving := by
  funext arguments error
  simp only [Operation.Forgives, Unforgiving, eq_iff_iff, iff_false]
  rintro ⟨htool, ⟨hoperation, -⟩ | ⟨hoperation, -⟩⟩
  · exact h ⟨htool, Or.inl hoperation⟩
  · exact h ⟨htool, Or.inr hoperation⟩

namespace WorkingCopy

/-- Every operation but the one that reads a bookmark goes by a plan. -/
theorem follows_perform (copy : WorkingCopy) (operation : Operation)
    (h : ¬ (copy.tool = .hg ∧ operation = .branch)) :
    copy.launcher.Follows (operation.Forgives copy.tool) (copy.perform operation) := by
  obtain ⟨tool, launcher⟩ := copy
  by_cases hforgiving : tool = .git ∧ (operation = .remoteName ∨ operation = .defaultBranch)
  · obtain ⟨rfl, rfl | rfl⟩ := hforgiving
    · rw [Operation.forgives_git_remoteName]
      exact Git.follows_remoteName.map _
    · rw [Operation.forgives_git_defaultBranch]
      exact Git.follows_defaultBranch.map _
  · rw [Operation.forgives_eq_unforgiving hforgiving]
    cases operation with
    | headRevision =>
      cases tool with
      | git => exact Git.follows_headRevision.map _
      | hg => exact Mercurial.follows_headRevision.map _
    | baseRevision =>
      cases tool with
      | git => exact Git.follows_baseRevision.map _
      | hg => exact Mercurial.follows_baseRevision.map _
    | branch =>
      cases tool with
      | git => exact Git.follows_branch.map _
      | hg => exact absurd ⟨rfl, rfl⟩ h
    | remoteName =>
      cases tool with
      | git => exact absurd ⟨rfl, Or.inl rfl⟩ hforgiving
      | hg => exact Mercurial.follows_remoteName.map _
    | defaultBranch =>
      cases tool with
      | git => exact absurd ⟨rfl, Or.inr rfl⟩ hforgiving
      | hg => exact (Follows.pure _).map _
    | url remote => cases tool <;> exact (Follows.runTrimmed fun _ => id).map _
    | commitMessage revision => cases tool <;> exact (Follows.run fun _ => id).map _
    | isClean untracked ignored =>
      cases tool <;> exact ((Follows.run fun _ => id).bind fun _ => .pure _).map _
    | update reference =>
      cases tool <;> exact ((Follows.run fun _ => id).bind fun _ => .pure _).map _

/-- What is made of the answer leaves a failure as it is. -/
theorem run_map_eq_error {α β : Type} {f : α → β} {action : HostM Error α} {host : Host}
    {error : Error} (h : ((f <$> action).run host).1 = .error error) :
    (action.run host).1 = .error error := by
  rw [map_eq_pure_bind, HostM.run_bind] at h
  generalize action.run host = ran at h ⊢
  obtain ⟨outcome, after⟩ := ran
  cases outcome <;> cases h
  rfl

/-- An operation never gives a failure that it forgives. -/
theorem perform_ne_forgiven {copy : WorkingCopy} {operation : Operation} {host : Host}
    {attempt : Attempt} {error : Error} (hfails : attempt.FailsWith copy.launcher error)
    (h : operation.Forgives copy.tool attempt.arguments error) :
    ((copy.perform operation).run host).1 ≠ .error error := by
  obtain ⟨tool, launcher⟩ := copy
  obtain ⟨rfl, ⟨rfl, hnone⟩ | ⟨rfl, hexpected⟩⟩ := h
  · intro hmap
    exact Git.remoteName_ne_tracksNone hfails hnone (run_map_eq_error hmap)
  · intro hmap
    exact Git.findBranch_not_expected (run_map_eq_error hmap) hexpected

/-- The bookmark of a Mercurial working copy is found without a launch. -/
theorem run_perform_branch {copy : WorkingCopy} (htool : copy.tool = .hg) (host : Host) :
    ((copy.perform .branch).run host).2 = host ∧
      ∀ failure, ((copy.perform .branch).run host).1 ≠ .error (.commandFailed failure) := by
  obtain ⟨tool, launcher⟩ := copy
  cases htool
  obtain ⟨hhost, hfailure⟩ := @Mercurial.run_branch launcher host
  refine ⟨?_, fun failure h => hfailure failure (run_map_eq_error h)⟩
  rw [perform, map_eq_pure_bind, HostM.run_bind]
  rw [show WorkingCopy.branch? ⟨.hg, launcher⟩ = Mercurial.branch? launcher from rfl]
  generalize (Mercurial.branch? launcher).run host = ran at hhost ⊢
  obtain ⟨outcome, after⟩ := ran
  cases outcome <;> exact hhost

/-- No operation but the search for the default branch of a Git working copy makes more than two
calls. -/
theorem length_calls_perform_le {copy : WorkingCopy} {operation : Operation} (host : Host)
    (h : ¬ (copy.tool = .git ∧ operation = .defaultBranch)) :
    ((copy.perform operation).run host).2.calls.length ≤ host.calls.length + 2 := by
  obtain ⟨calls, hstarts, hle⟩ := copy.startsAtMost_perform operation host
  have hlimit : operation.callLimit copy.tool = 2 := by
    unfold Operation.callLimit
    split
    · rename_i htool
      exact absurd ⟨htool, rfl⟩ h
    · rfl
  rw [hstarts.calls_eq, List.length_append]
  omega

/-- An operation ends with the first launch that fails, and gives its failure as it is, unless it
forgives it.

Whatever the operation and its arguments, there is a plan that says what it launches, and it goes by
the plan on every host, whatever the replies of the processes. A launch fails if its process is not
started, ends with another code than zero or by a signal, or succeeds with output that is no text.
If that is forgiven, which happens in the search for a remote or for the default branch of a Git
working copy alone, the operation does not give this failure; otherwise nothing is launched any more
and the operation gives it. A failure of a command tells of the last call: its executable and
arguments in one line, its exit code and what it printed. A process that is not started makes the
host's refusal the failure of the operation. Only the bookmark of a Mercurial working copy is found
without a plan, in a file; nothing is launched for it.

A process is not started if what it is handed holds the character zero, or for want of its
directory. No operation but the search for the default branch of a Git working copy makes more than
two calls. -/
theorem perform_ends_with_failure (copy : WorkingCopy) (operation : Operation) :
    let launcher := copy.launcher
    let ran := fun host => (copy.perform operation).run host
    (¬ (copy.tool = .hg ∧ operation = .branch) → ∃ plan : Plan Answer, ∀ host,
      let attempts := plan.attempts launcher host
      ran host = plan.run launcher host ∧
      (ran host).2.calls = host.calls ++ attempts.filterMap Attempt.call? ∧
      (∀ before attempt later error, attempts = before ++ attempt :: later →
        attempt.FailsWith launcher error →
        (¬ operation.Forgives copy.tool attempt.arguments error →
          later = [] ∧ (ran host).1 = .error error) ∧
        (operation.Forgives copy.tool attempt.arguments error → (ran host).1 ≠ .error error)) ∧
      (∀ failure, (ran host).1 = .error (.commandFailed failure) →
        ∃ call reply, (∃ before attempt, attempts = before ++ [attempt] ∧
            attempt.course = .ok (call, reply)) ∧
          (ran host).2.calls.getLast? = some call ∧ reply.exit ≠ .code 0 ∧
          failure = {
            command := " ".intercalate (call.executable :: call.arguments)
            exitCode := reply.exit.number
            stdout := Text.Utf8.decodeLossy reply.stdout
            stderr := Text.Utf8.decodeLossy reply.stderr }) ∧
      ∀ before attempt later fault, attempts = before ++ attempt :: later →
        attempt.course = .error fault → later = [] ∧ (ran host).1 = .error (.io fault)) ∧
    (copy.tool = .hg ∧ operation = .branch → ∀ host, (ran host).2 = host ∧
      ∀ failure, (ran host).1 ≠ .error (.commandFailed failure)) ∧
    (∀ (host : Host) (arguments : List String),
      ((∃ text ∈ arguments, holdsNul text = true) ∨ launcher.environment.holdNul = true →
        (launcher.attempt host arguments).course = .error .nulInData) ∧
      (∀ fault, host.files.resolveDirectory host.directory launcher.root = .error fault →
        ∃ refusal, (launcher.attempt host arguments).course = .error refusal)) ∧
    (¬ (copy.tool = .git ∧ operation = .defaultBranch) → ∀ host,
      (ran host).2.calls.length ≤ host.calls.length + 2) := by
  intro launcher ran
  refine ⟨fun hplanned => ?_, ?_, fun host arguments => ⟨fun hnul => ?_, fun fault hroot => ?_⟩, ?_⟩
  · obtain ⟨plan, hstops, hrun⟩ := copy.follows_perform operation hplanned
    refine ⟨plan, fun host => ?_⟩
    intro attempts
    rw [show ran host = plan.run launcher host from hrun host]
    refine ⟨rfl, Plan.calls_run, ?_, ?_, ?_⟩
    · intro before attempt later error hsplit hfails
      refine ⟨hstops.ends hsplit hfails, fun hforgiven => ?_⟩
      rw [← hrun host]
      exact perform_ne_forgiven hfails hforgiven
    · intro failure hfail
      obtain ⟨before, attempt, hsplit, hfails⟩ := hstops.command hfail
      cases hfails with
      | unsuccessful hcourse hexit =>
        rename_i call reply
        have hmem : attempt ∈ plan.attempts launcher host := by simp [hsplit]
        obtain ⟨start, hattempt⟩ := Plan.exists_attempt_of_mem hmem
        rw [hattempt] at hcourse
        obtain ⟨hexecutable, harguments⟩ := attempt_call hcourse
        refine ⟨call, reply, ⟨before, attempt, hsplit, hattempt ▸ hcourse⟩, ?_, hexit, ?_⟩
        · have hcall : attempt.call? = some call := by
            rw [Attempt.call?, hattempt, hcourse]
            rfl
          rw [Plan.calls_run, hsplit, List.filterMap_append, List.filterMap_cons_some hcall]
          simp
        · rw [hexecutable, harguments]
    · intro before attempt later fault hsplit hcourse
      exact hstops.ends hsplit (.refused hcourse) fun hforgiven => hforgiven.expected
  · rintro ⟨htool, rfl⟩
    exact run_perform_branch htool
  · rw [Launcher.attempt, prepare_of_holdsNul hnul]
    rfl
  · rw [Launcher.attempt]
    obtain ⟨refusal, hprepare⟩ := prepare_of_no_directory hroot
    rw [hprepare]
    exact ⟨refusal, rfl⟩
  · exact fun h host => length_calls_perform_le host h

end WorkingCopy

end RevisionControl
