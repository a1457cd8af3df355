import RevisionControl.Fixture.Repository
import RevisionControl.Proofs.Writes

/-!
# Proofs: setting up a fixture

A fixture is set up in stages (`plan`), each a call of the tool or the writing of a file. The stages
are gone through in order up to the first that fails (`Runs`). What has happened until then is all
that becomes of the host: the calls are recorded, each is answered by the next reply that the host
has ready, and the file tree is changed by what their processes make and by the files written, one
after the other; nothing is undone.
-/

namespace RevisionControl.Fixture

open FileTree Host

variable {tool : Tool} {path : String} {settings : Settings} {host middle after : Host}

/-! ## Stages -/

/-- A stage of setting up a fixture. -/
inductive Stage where
  /-- The tool is called. -/
  | call (arguments : List String)
  /-- A file is written. -/
  | write (file content : String)

/-- The arguments of a call. -/
def Stage.arguments? : Stage → Option (List String)
  | call arguments => some arguments
  | write .. => none

/-- Goes through a stage. -/
def Stage.perform (tool : Tool) (path : String) : Stage → HostM Failure Unit
  | call arguments => do
    let _ ← invoke tool path arguments
  | write file content => writeFile file content

/-- Goes through some stages. -/
def performAll (tool : Tool) (path : String) : List Stage → HostM Failure Unit
  | [] => return ()
  | stage :: more => do
    stage.perform tool path
    performAll tool path more

/-- The stages of a first commit. -/
def commitPlan (tool : Tool) (path : String) (settings : Settings) : List Stage :=
  if settings.withCommit then
    [.write (Path.join path "README.md") "Initial content", .call ["add", "README.md"],
      .call ["commit", "-m", settings.message],
      .call (match tool with
        | .git => ["rev-parse", "HEAD"]
        | .hg => ["log", "-r", ".", "-T", "\x7bnode\x7d"])]
  else []

/-- The stages of setting up a fixture. -/
def plan (tool : Tool) (path : String) (settings : Settings) : List Stage :=
  (match tool with
    | .git =>
      [.call ["init", "-b", settings.branch], .call ["config", "user.email", settings.email],
        .call ["config", "user.name", settings.author], .call ["config", "commit.gpgsign", "false"],
        .call ["config", "tag.gpgsign", "false"]]
    | .hg =>
      [.call ["init"],
        .write (Path.join (Path.join path ".hg") "hgrc")
          ("[ui]\nusername = " ++ (settings.author ++ " <" ++ settings.email ++ ">") ++ "\n")]) ++
    commitPlan tool path settings

theorem commitFirst_eq (tool : Tool) (path : String) (settings : Settings) :
    commitFirst tool path settings = performAll tool path (commitPlan tool path settings) := by
  unfold commitFirst commitPlan
  cases settings.withCommit with
  | false => rfl
  | true =>
    rw [if_pos rfl, if_pos rfl]
    cases tool <;>
      simp only [commit, headArguments, performAll, Stage.perform, bind_assoc, pure_bind]

theorem setUp_eq (tool : Tool) (path : String) (settings : Settings) :
    setUp tool path settings = performAll tool path (plan tool path settings) := by
  unfold plan
  cases tool with
  | git =>
    unfold setUp setUpGit gitConfiguration
    simp only [invokeAll, commitFirst_eq, performAll, Stage.perform, bind_assoc, pure_bind,
      List.cons_append, List.nil_append]
  | hg =>
    unfold setUp setUpHg hgConfigurationFile hgConfiguration Settings.committer
    simp only [commitFirst_eq, performAll, Stage.perform, bind_assoc, pure_bind, List.cons_append,
      List.nil_append]

/-! ## What happens -/

/-- What a stage does on the host. -/
inductive Event where
  /-- A process has been started, and has ended. -/
  | called (call : Call) (reply : Reply)
  /-- A file has been written. -/
  | wrote (place : Location) (executable : Bool) (content : List UInt8)

namespace Event

/-- The file tree after an event. -/
def apply (files : FileTree) : Event → FileTree
  | called call reply => (files.makeAll call.directory reply.makings).1
  | wrote place executable content => files.insert place (.file executable content)

/-- The call that is made. -/
def call? : Event → Option Call
  | called call _ => some call
  | wrote .. => none

/-- The reply of the process. -/
def reply? : Event → Option Reply
  | called _ reply => some reply
  | wrote .. => none

/-- What an event comes to. -/
def result (tool : Tool) : Event → Except Failure Unit
  | called call reply =>
    if reply.exit = .code 0 then .ok ()
    else .error (.toolFailed tool call.arguments (Text.Utf8.decodeLossy reply.stderr))
  | wrote .. => .ok ()

/-- An event is what a stage asks for. -/
def Serves (environment : Environment) : Event → Stage → Prop
  | called call _, .call arguments =>
    call.arguments = arguments ∧ call.environment = environment ∧ call.emptyInput = true
  | wrote _ _ content, .write _ text => content = text.toUTF8.toList
  | _, _ => False

end Event

/-- A stage takes place. -/
inductive Stage.Happens (tool : Tool) (path : String) : Stage → Host → Event → Host → Prop where
  | call {host : Host} {arguments : List String} {call : Call}
      (hcall : host.prepare (toolCommand host tool path arguments) = .ok call) :
      Happens tool path (.call arguments) host (.called call (host.run call).1) (host.run call).2
  | write {host : Host} {file content : String} {place : Location} {executable : Bool}
      (hwrites : WritesTo host.files host.directory file place executable) :
      Happens tool path (.write file content) host (.wrote place executable content.toUTF8.toList)
        { host with files := host.files.insert place (.file executable content.toUTF8.toList) }

/-- The host refuses a stage. -/
inductive Stage.Refused (tool : Tool) (path : String) (host : Host) : Stage → Fault → Prop where
  | call {arguments : List String} {fault : Fault}
      (hcall : host.prepare (toolCommand host tool path arguments) = .error fault) :
      Refused tool path host (.call arguments) fault
  | write {file content : String} {fault : Fault}
      (hwrite : host.files.write host.directory file content.toUTF8.toList = .error fault) :
      Refused tool path host (.write file content) fault

/-- Stages are gone through up to the first that fails. -/
inductive Runs (tool : Tool) (path : String) :
    List Stage → Host → List Event → Except Failure Unit → Host → Prop where
  | finished (host : Host) : Runs tool path [] host [] (.ok ()) host
  | refused {stage : Stage} {more : List Stage} {host : Host} {fault : Fault}
      (hrefused : stage.Refused tool path host fault) :
      Runs tool path (stage :: more) host [] (.error (.io fault)) host
  | failed {stage : Stage} {more : List Stage} {host after : Host} {event : Event}
      {failure : Failure} (hhappens : stage.Happens tool path host event after)
      (hfailure : event.result tool = .error failure) :
      Runs tool path (stage :: more) host [event] (.error failure) after
  | passed {stage : Stage} {more : List Stage} {host middle after : Host} {event : Event}
      {events : List Event} {result : Except Failure Unit}
      (hhappens : stage.Happens tool path host event middle)
      (hok : event.result tool = .ok ()) (hmore : Runs tool path more middle events result after) :
      Runs tool path (stage :: more) host (event :: events) result after

variable {stage : Stage} {stages : List Stage} {event : Event} {events : List Event}
  {result : Except Failure Unit} {fault : Fault} {arguments : List String}

/-! ## One stage -/

theorem invoke_of_refused
    (h : host.prepare (toolCommand host tool path arguments) = .error fault) :
    (invoke tool path arguments).run host = (.error (.io fault), host) := by
  have hstart : (Host.lift .io (Host.start (toolCommand host tool path arguments)) :
      HostM Failure Reply).run host = (.error (.io fault), host) := by
    rw [HostM.run_lift, start_of_refused h]
    rfl
  exact HostM.run_bind_error hstart _

theorem invoke_of_prepared {call : Call}
    (h : host.prepare (toolCommand host tool path arguments) = .ok call) :
    (invoke tool path arguments).run host =
      (if (host.run call).1.exit = .code 0 then .ok (Text.Utf8.decodeLossy (host.run call).1.stdout)
        else .error (.toolFailed tool arguments (Text.Utf8.decodeLossy (host.run call).1.stderr)),
      (host.run call).2) := by
  have hstart : (Host.lift .io (Host.start (toolCommand host tool path arguments)) :
      HostM Failure Reply).run host = (.ok (host.run call).1, (host.run call).2) := by
    rw [HostM.run_lift, start_of_prepared h]
    rfl
  have hinvoke : (invoke tool path arguments).run host = _ := HostM.run_bind_ok hstart _
  rw [hinvoke]
  split <;> rfl

theorem writeFile_of_ok {file content : String} {files : FileTree}
    (h : host.files.write host.directory file content.toUTF8.toList = .ok files) :
    (writeFile file content).run host = (.ok (), { host with files }) := by
  have hwrite : (Host.writeFile file content.toUTF8.toList).run host = (.ok (), { host with files }) := by
    simp only [Host.writeFile, changeFiles, ExceptT.run, h]
  rw [writeFile, HostM.run_lift, hwrite]
  rfl

theorem writeFile_of_error {file content : String}
    (h : host.files.write host.directory file content.toUTF8.toList = .error fault) :
    (writeFile file content).run host = (.error (.io fault), host) := by
  have hwrite : (Host.writeFile file content.toUTF8.toList).run host = (.error fault, host) := by
    simp only [Host.writeFile, changeFiles, ExceptT.run, h]
  rw [writeFile, HostM.run_lift, hwrite]
  rfl

/-- A process that is started for a tool is the one asked for, in the directory asked for. -/
theorem prepare_toolCommand {call : Call}
    (h : host.prepare (toolCommand host tool path arguments) = .ok call) :
    call.arguments = arguments ∧
      call.environment = host.environment.setAll (toolVariables tool) ∧ call.emptyInput = true ∧
      host.files.resolveDirectory host.directory path = .ok call.directory := by
  unfold prepare at h
  cases hnul : (toolCommand host tool path arguments).holdsNul with
  | true =>
    rw [hnul] at h
    cases h
  | false =>
    rw [hnul] at h
    have h : (host.files.resolveDirectory host.directory path >>= fun directory =>
        findExecutable host.files directory (toolCommand host tool path arguments) >>=
          fun executable => .ok ⟨executable, arguments, directory,
            host.environment.setAll (toolVariables tool), true⟩) = .ok call := h
    obtain ⟨directory, hdirectory, h⟩ := ok_of_bind_ok h
    obtain ⟨executable, -, h⟩ := ok_of_bind_ok h
    cases h
    exact ⟨rfl, rfl, rfl, hdirectory⟩

theorem Stage.Happens.perform (h : stage.Happens tool path host event after) :
    (stage.perform tool path).run host = (event.result tool, after) := by
  cases h with
  | @call _ arguments call hcall =>
    have hinvoke := invoke_of_prepared hcall
    have harguments := (prepare_toolCommand hcall).1
    by_cases hexit : (host.run call).1.exit = .code 0
    · have hresult : (Event.called call (host.run call).1).result tool = .ok () := if_pos hexit
      rw [if_pos hexit] at hinvoke
      rw [hresult]
      exact HostM.run_bind_ok hinvoke _
    · have hresult : (Event.called call (host.run call).1).result tool = _ := if_neg hexit
      rw [if_neg hexit] at hinvoke
      rw [hresult, harguments]
      exact HostM.run_bind_error hinvoke _
  | @write _ file content place executable hwrites =>
    exact writeFile_of_ok (write_eq_ok_iff.mpr ⟨place, executable, hwrites, rfl⟩)

theorem Stage.Refused.perform (h : stage.Refused tool path host fault) :
    (stage.perform tool path).run host = (.error (.io fault), host) := by
  cases h with
  | call hcall => exact HostM.run_bind_error (invoke_of_refused hcall) _
  | write hwrite => exact writeFile_of_error hwrite

/-- A stage takes place or is refused. -/
theorem happens_or_refused (tool : Tool) (path : String) (stage : Stage) (host : Host) :
    (∃ event after, stage.Happens tool path host event after) ∨
      ∃ fault, stage.Refused tool path host fault := by
  cases stage with
  | call arguments =>
    cases hcall : host.prepare (toolCommand host tool path arguments) with
    | ok call => exact .inl ⟨_, _, .call hcall⟩
    | error fault => exact .inr ⟨_, .call hcall⟩
  | write file content =>
    cases hwrite : host.files.write host.directory file content.toUTF8.toList with
    | ok files =>
      obtain ⟨place, executable, hwrites, -⟩ := write_eq_ok_iff.mp hwrite
      exact .inl ⟨_, _, .write hwrites⟩
    | error fault => exact .inr ⟨_, .write hwrite⟩

/-! ## All stages -/

theorem Runs.performAll (h : Runs tool path stages host events result after) :
    (performAll tool path stages).run host = (result, after) := by
  induction h with
  | finished host => rfl
  | refused hrefused =>
    exact HostM.run_bind_error hrefused.perform _
  | failed hhappens hfailure =>
    have hperform := hhappens.perform
    rw [hfailure] at hperform
    exact HostM.run_bind_error hperform _
  | passed hhappens hok hmore ih =>
    have hperform := hhappens.perform
    rw [hok] at hperform
    rw [← ih]
    exact HostM.run_bind_ok hperform _

theorem exists_runs (tool : Tool) (path : String) (stages : List Stage) (host : Host) :
    ∃ events result after, Runs tool path stages host events result after := by
  induction stages generalizing host with
  | nil => exact ⟨_, _, _, .finished host⟩
  | cons stage more ih =>
    rcases happens_or_refused tool path stage host with ⟨event, middle, hhappens⟩ | ⟨fault, hrefused⟩
    · cases hresult : event.result tool with
      | error failure => exact ⟨_, _, _, .failed hhappens hresult⟩
      | ok passed =>
        obtain ⟨events, result, after, hmore⟩ := ih middle
        exact ⟨_, _, _, .passed hhappens hresult hmore⟩
    · exact ⟨_, _, _, .refused hrefused⟩

theorem performAll_run_iff : (performAll tool path stages).run host = (result, after) ↔
    ∃ events, Runs tool path stages host events result after := by
  constructor
  · intro h
    obtain ⟨events, found, there, hruns⟩ := exists_runs tool path stages host
    rw [hruns.performAll] at h
    cases h
    exact ⟨events, hruns⟩
  · rintro ⟨events, hruns⟩
    exact hruns.performAll

/-! ## What is left of a run -/

theorem run_files (host : Host) (call : Call) : (host.run call).2.files =
    (host.files.makeAll call.directory (host.run call).1.makings).1 := by
  unfold Host.run Host.nextReply
  cases host.replies <;> rfl

theorem run_directory (host : Host) (call : Call) :
    (host.run call).2.directory = host.directory := by
  unfold Host.run Host.nextReply
  cases host.replies <;> rfl

/-- What a stage that takes place leaves on the host. -/
structure Event.Leaves (event : Event) (host after : Host) : Prop where
  calls_eq : after.calls = host.calls ++ event.call?.toList
  files_eq : after.files = event.apply host.files
  directory_eq : after.directory = host.directory
  environment_eq : after.environment = host.environment

theorem Stage.Happens.leaves (h : stage.Happens tool path host event after) :
    event.Leaves host after := by
  cases h with
  | call hcall =>
    exact ⟨run_calls _ _, run_files _ _, run_directory _ _, run_environment _ _⟩
  | write hwrites => exact ⟨(List.append_nil _).symm, rfl, rfl, rfl⟩

theorem Stage.Happens.serves (h : stage.Happens tool path host event after) :
    event.Serves (host.environment.setAll (toolVariables tool)) stage := by
  cases h with
  | call hcall =>
    obtain ⟨harguments, henvironment, hinput, -⟩ := prepare_toolCommand hcall
    exact ⟨harguments, henvironment, hinput⟩
  | write hwrites => rfl

/-- What a run leaves is what its events leave, one after the other. -/
theorem Runs.leaves (h : Runs tool path stages host events result after) :
    after.calls = host.calls ++ events.filterMap Event.call? ∧
      after.files = events.foldl Event.apply host.files ∧
      after.directory = host.directory ∧ after.environment = host.environment := by
  induction h with
  | finished host => exact ⟨(List.append_nil _).symm, rfl, rfl, rfl⟩
  | refused hrefused => exact ⟨(List.append_nil _).symm, rfl, rfl, rfl⟩
  | @failed _ _ _ _ event _ hhappens hfailure =>
    obtain ⟨hcalls, hfiles, hdirectory, henvironment⟩ := hhappens.leaves
    refine ⟨?_, hfiles, hdirectory, henvironment⟩
    rw [hcalls]
    cases event <;> rfl
  | @passed _ _ _ _ _ event events _ hhappens hok hmore ih =>
    obtain ⟨hcalls, hfiles, hdirectory, henvironment⟩ := hhappens.leaves
    obtain ⟨hcallsMore, hfilesMore, hdirectoryMore, henvironmentMore⟩ := ih
    refine ⟨?_, ?_, hdirectoryMore.trans hdirectory, henvironmentMore.trans henvironment⟩
    · rw [hcallsMore, hcalls, List.append_assoc]
      cases event <;> rfl
    · rw [hfilesMore, hfiles]
      rfl

/-- The replies in a run are those that the host has ready, in order. A file that is written takes
none of them. -/
theorem Runs.replies_eq (h : Runs tool path stages host events result after) :
    events.filterMap Event.reply? =
      (List.range (events.filterMap Event.call?).length).map host.replyAfter := by
  have hcalled : ∀ (host : Host) (call : Call) (more : Nat),
      (host.run call).1 :: (List.range more).map (host.run call).2.replyAfter =
        (List.range (more + 1)).map host.replyAfter := by
    intro host call more
    rw [List.range_succ_eq_map, List.map_cons, List.map_map, run_reply]
    exact congrArg _ (List.map_congr_left fun earlier _ => run_replyAfter host call earlier)
  induction h with
  | finished host => rfl
  | refused hrefused => rfl
  | failed hhappens hfailure =>
    cases hhappens with
    | call hcall => exact hcalled _ _ 0
    | write hwrites => rfl
  | passed hhappens hok hmore ih =>
    cases hhappens with
    | call hcall => exact (congrArg _ ih).trans (hcalled _ _ _)
    | write hwrites => exact ih

theorem Runs.serves (h : Runs tool path stages host events result after) :
    List.Forall₂ (Event.Serves (host.environment.setAll (toolVariables tool))) events
      (stages.take events.length) := by
  induction h with
  | finished host => exact .nil
  | refused hrefused => exact .nil
  | failed hhappens hfailure => exact .cons hhappens.serves .nil
  | passed hhappens hok hmore ih =>
    rw [hhappens.leaves.environment_eq] at ih
    exact .cons hhappens.serves ih

/-- Each event of a run is its stage taking place after the events before. -/
theorem Runs.happens (h : Runs tool path stages host events result after) {i : Nat}
    (hevent : events[i]? = some event) :
    ∃ stage before next, stages[i]? = some stage ∧ stage.Happens tool path before event next ∧
      before.files = (events.take i).foldl Event.apply host.files ∧
      before.directory = host.directory := by
  induction h generalizing i with
  | finished host => cases hevent
  | refused hrefused => cases hevent
  | failed hhappens hfailure =>
    cases i with
    | zero =>
      cases hevent
      exact ⟨_, _, _, rfl, hhappens, rfl, rfl⟩
    | succ i => cases hevent
  | passed hhappens hok hmore ih =>
    cases i with
    | zero =>
      cases hevent
      exact ⟨_, _, _, rfl, hhappens, rfl, rfl⟩
    | succ i =>
      obtain ⟨stage, before, next, hstage, hthere, hfiles, hdirectory⟩ := ih hevent
      obtain ⟨-, hfirst, hsame, -⟩ := hhappens.leaves
      refine ⟨stage, before, next, hstage, hthere, ?_, hdirectory.trans hsame⟩
      rw [hfiles, hfirst]
      rfl

/-- A run passes all stages, or fails with its last event, or is refused the next stage. -/
inductive Stops (tool : Tool) (path : String) (stages : List Stage) (after : Host) :
    List Event → Except Failure Unit → Prop where
  | passed {events : List Event} (hlength : events.length = stages.length)
      (hok : ∀ event ∈ events, event.result tool = .ok ()) :
      Stops tool path stages after events (.ok ())
  | failed {before : List Event} {event : Event} {failure : Failure}
      (hlt : before.length < stages.length) (hok : ∀ event ∈ before, event.result tool = .ok ())
      (hfailure : event.result tool = .error failure) :
      Stops tool path stages after (before ++ [event]) (.error failure)
  | refused {events : List Event} {stage : Stage} {fault : Fault}
      (hok : ∀ event ∈ events, event.result tool = .ok ())
      (hstage : stages[events.length]? = some stage)
      (hrefused : stage.Refused tool path after fault) :
      Stops tool path stages after events (.error (.io fault))

theorem Runs.stops (h : Runs tool path stages host events result after) :
    Stops tool path stages after events result := by
  induction h with
  | finished host => exact .passed rfl fun event hevent => absurd hevent List.not_mem_nil
  | refused hrefused =>
    exact .refused (fun event hevent => absurd hevent List.not_mem_nil) rfl hrefused
  | @failed stage more _ after event failure hhappens hfailure =>
    exact @Stops.failed tool path (stage :: more) after [] event failure (Nat.succ_pos _)
      (fun event hevent => absurd hevent List.not_mem_nil) hfailure
  | @passed stage more _ _ after first _ _ hhappens hok hmore ih =>
    cases ih with
    | passed hlength hall =>
      exact .passed (congrArg Nat.succ hlength) (List.forall_mem_cons.mpr ⟨hok, hall⟩)
    | @failed before event failure hlt hall hfailure =>
      exact @Stops.failed tool path (stage :: more) after (first :: before) event failure
        (Nat.succ_lt_succ hlt) (List.forall_mem_cons.mpr ⟨hok, hall⟩) hfailure
    | refused hall hstage hrefused =>
      exact .refused (List.forall_mem_cons.mpr ⟨hok, hall⟩) hstage hrefused

/-- The node that an event puts at a location. -/
def Event.node? (location : Location) : Event → Option Node
  | .called .. => none
  | .wrote place executable content =>
    if place = location then some (.file executable content) else none

/-- A process leaves what is at a location as it is. -/
def Event.Spares (location : Location) : Event → Prop
  | .called call reply =>
    ∀ files, (makeAll files call.directory reply.makings).1.node? location = files.node? location
  | .wrote .. => True

theorem Stage.Happens.node?_apply (h : stage.Happens tool path host event after)
    {location : Location} (hspares : event.Spares location) :
    after.files.node? location = (event.node? location).or (host.files.node? location) := by
  rw [h.leaves.files_eq]
  cases h with
  | call hcall => exact hspares host.files
  | @write _ _ _ place executable hwrites =>
    obtain ⟨parsed, hparsed, hsize, hleads⟩ := hwrites
    have hne : place ≠ [] := hleads.hasRoom.ne_root
    show (host.files.insert _ _).node? location = (if _ then _ else _ : Option Node).or _
    rw [node?_insert hne]
    by_cases heq : location = place
    · rw [if_pos heq, if_pos heq.symm, Option.some_or]
    · rw [if_neg heq, if_neg (Ne.symm heq), Option.none_or]

/-- Where no process changes anything there is what was written last, or else what has been there. -/
theorem Runs.node?_eq (h : Runs tool path stages host events result after) {location : Location}
    (hspares : ∀ event ∈ events, event.Spares location) :
    after.files.node? location =
      (events.reverse.findSome? (Event.node? location)).or (host.files.node? location) := by
  induction h with
  | finished host => rfl
  | refused hrefused => rfl
  | failed hhappens hfailure =>
    rw [hhappens.node?_apply (hspares _ List.mem_cons_self), List.reverse_singleton,
      List.findSome?_singleton]
  | passed hhappens hok hmore ih =>
    obtain ⟨hfirst, hrest⟩ := List.forall_mem_cons.mp hspares
    rw [ih hrest, hhappens.node?_apply hfirst, List.reverse_cons, List.findSome?_append,
      Option.or_assoc, List.findSome?_singleton]

/-! ## Setting up -/

/-- What a run comes to, told by its events. -/
structure Recounts (tool : Tool) (path : String) (stages : List Stage) (host : Host)
    (events : List Event) (result : Except Failure Unit) (after : Host) : Prop where
  /-- The events are what the stages ask for, in order, as far as they go. -/
  serves : List.Forall₂ (Event.Serves (host.environment.setAll (toolVariables tool))) events
    (stages.take events.length)
  /-- It is the first failure that ends the run, and it is the result. -/
  stops : Stops tool path stages after events result
  /-- The run succeeds if and only if every stage takes place and succeeds. -/
  ok_iff : result = .ok () ↔
    events.length = stages.length ∧ ∀ event ∈ events, event.result tool = .ok ()
  /-- Every event that is a call is recorded, and no other call. -/
  calls_eq : after.calls = host.calls ++ events.filterMap Event.call?
  /-- The calls are those of the stages, as far as the events go. -/
  arguments_eq : (events.filterMap Event.call?).map (·.arguments) =
    (stages.take events.length).filterMap Stage.arguments?
  /-- Each process gives the next of the replies that the host has ready. -/
  replies_eq : events.filterMap Event.reply? =
    (List.range (events.filterMap Event.call?).length).map host.replyAfter
  /-- Each call is made in the directory to which the path leads then. -/
  directory_eq : ∀ i call reply, events[i]? = some (.called call reply) →
    ((events.take i).foldl Event.apply host.files).resolveDirectory host.directory path =
      .ok call.directory
  /-- The events change the file tree one after the other, and nothing is undone. -/
  files_eq : after.files = events.foldl Event.apply host.files
  /-- A file is written if and only if all stages before have succeeded and there is a place for
  it. -/
  writes_iff : ∀ i file content, stages[i]? = some (.write file content) →
    (i < events.length ↔
      (i ≤ events.length ∧ ∀ event ∈ events.take i, event.result tool = .ok ()) ∧
        ∃ place executable, WritesTo ((events.take i).foldl Event.apply host.files) host.directory
          file place executable)
  /-- What is written is what the stage says, and is read by the same path. -/
  wrote : ∀ i place executable content, events[i]? = some (.wrote place executable content) →
    ∃ file text, stages[i]? = some (.write file text) ∧ content = text.toUTF8.toList ∧
      WritesTo ((events.take i).foldl Event.apply host.files) host.directory file place executable ∧
      ((events.take (i + 1)).foldl Event.apply host.files).read host.directory file = .ok content
  /-- Where no process changes anything there is what was written last, or else what has been
  there. -/
  node?_eq : ∀ location, (∀ event ∈ events, event.Spares location) →
    after.files.node? location =
      (events.reverse.findSome? (Event.node? location)).or (host.files.node? location)

theorem arguments_of_serves {environment : Environment}
    (h : List.Forall₂ (Event.Serves environment) events stages) :
    (events.filterMap Event.call?).map (·.arguments) = stages.filterMap Stage.arguments? := by
  induction h with
  | nil => rfl
  | @cons event stage events stages hserves hmore ih =>
    cases event with
    | called call reply =>
      cases stage with
      | call arguments =>
        have harguments : call.arguments = arguments := hserves.1
        rw [← harguments]
        exact congrArg (call.arguments :: ·) ih
      | write file content => exact hserves.elim
    | wrote place executable content =>
      cases stage with
      | call arguments => exact hserves.elim
      | write file text => exact ih

theorem Stops.ok_iff (h : Stops tool path stages after events result) : result = .ok () ↔
    events.length = stages.length ∧ ∀ event ∈ events, event.result tool = .ok () := by
  cases h with
  | passed hlength hok => exact ⟨fun _ => ⟨hlength, hok⟩, fun _ => rfl⟩
  | failed hlt hok hfailure =>
    refine ⟨nofun, fun ⟨_, hall⟩ => ?_⟩
    have hlast := hall _ (List.mem_append_right _ List.mem_cons_self)
    rw [hfailure] at hlast
    cases hlast
  | refused hok hstage hrefused =>
    refine ⟨nofun, fun ⟨hlength, _⟩ => ?_⟩
    rw [hlength, List.getElem?_length] at hstage
    cases hstage

/-- A stage of which all before have succeeded is refused, or takes place. -/
theorem Stops.lt_of_not_refused (h : Stops tool path stages after events result) {i : Nat}
    (hstage : stages[i]? = some stage) (hle : i ≤ events.length)
    (hok : ∀ event ∈ events.take i, event.result tool = .ok ())
    (hnot : i = events.length → ∀ fault, ¬ stage.Refused tool path after fault) :
    i < events.length := by
  refine Nat.lt_of_le_of_ne hle fun heq => ?_
  rw [heq, List.take_length] at hok
  cases h with
  | passed hlength hall =>
    rw [heq, hlength, List.getElem?_length] at hstage
    cases hstage
  | failed hlt hall hfailure =>
    have hlast := hok _ (List.mem_append_right _ List.mem_cons_self)
    rw [hfailure] at hlast
    cases hlast
  | refused hall hthere hrefused =>
    rw [heq, hthere] at hstage
    cases hstage
    exact hnot heq _ hrefused

theorem Stops.ok_of_mem_take (h : Stops tool path stages after events result) {i : Nat}
    (hlt : i < events.length) : ∀ event ∈ events.take i, event.result tool = .ok () := by
  intro event hevent
  cases h with
  | passed hlength hok => exact hok event (List.mem_of_mem_take hevent)
  | refused hok hstage hrefused => exact hok event (List.mem_of_mem_take hevent)
  | failed hlt' hok hfailure =>
    rw [List.length_append, List.length_singleton] at hlt
    rw [List.take_append_of_le_length (by omega)] at hevent
    exact hok event (List.mem_of_mem_take hevent)

theorem Runs.recounts (h : Runs tool path stages host events result after) :
    Recounts tool path stages host events result after := by
  obtain ⟨hcalls, hfiles, hdirectory, -⟩ := h.leaves
  refine ⟨h.serves, h.stops, h.stops.ok_iff, hcalls, arguments_of_serves h.serves, h.replies_eq, ?_,
    hfiles, ?_, ?_, fun location => h.node?_eq⟩
  · intro i call reply hevent
    obtain ⟨stage, before, next, -, hhappens, hthere, hsame⟩ := h.happens hevent
    rw [← hthere, ← hsame]
    cases hhappens with
    | call hcall => exact (prepare_toolCommand hcall).2.2.2
  · intro i file content hstage
    constructor
    · intro hlt
      obtain ⟨event, hevent⟩ : ∃ event, events[i]? = some event :=
        ⟨_, List.getElem?_eq_getElem hlt⟩
      obtain ⟨stage, before, next, hthere, hhappens, hbefore, hsame⟩ := h.happens hevent
      rw [hstage] at hthere
      cases hthere
      refine ⟨⟨Nat.le_of_lt hlt, h.stops.ok_of_mem_take hlt⟩, ?_⟩
      rw [← hbefore, ← hsame]
      cases hhappens with
      | write hwrites => exact ⟨_, _, hwrites⟩
    · rintro ⟨⟨hle, hok⟩, place, executable, hwrites⟩
      refine h.stops.lt_of_not_refused hstage hle hok fun heq fault hrefused => ?_
      rw [heq, List.take_length, ← hfiles, ← hdirectory] at hwrites
      cases hrefused with
      | write hwrite =>
        rw [write_eq_ok_iff.mpr ⟨place, executable, hwrites, rfl⟩] at hwrite
        cases hwrite
  · intro i place executable content hevent
    obtain ⟨stage, before, next, hstage, hhappens, hbefore, hsame⟩ := h.happens hevent
    have htake : events.take (i + 1) = events.take i ++ [.wrote place executable content] := by
      rw [List.take_add_one, hevent]
      rfl
    rw [htake, List.foldl_append, ← hbefore, ← hsame]
    cases hhappens with
    | write hwrites => exact ⟨_, _, hstage, rfl, hwrites, hwrites.read_insert _⟩

/-- Setting up a fixture goes through its stages up to the first that fails. Each call is answered
by the next reply of the host, and it is by this reply that it succeeds or fails. -/
theorem setUp_stops_at_first_failure (tool : Tool) (path : String) (settings : Settings)
    (host : Host) : ∃ events,
      Runs tool path (plan tool path settings) host events
        ((setUp tool path settings).run host).1 ((setUp tool path settings).run host).2 ∧
      Recounts tool path (plan tool path settings) host events
        ((setUp tool path settings).run host).1 ((setUp tool path settings).run host).2 := by
  rw [setUp_eq]
  obtain ⟨events, hruns⟩ := performAll_run_iff.mp (Prod.eta _).symm
  exact ⟨events, hruns, hruns.recounts⟩

end RevisionControl.Fixture
