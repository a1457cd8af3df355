import RevisionControl.Proofs.Surroundings
import RevisionControl.Session

/-!
# Proofs: discovering a working copy

Discovering a working copy is finding its root and then binding the root's tool. Which tool that is
has been told by the root alone when the search path is first looked at: there only the tool's own
name is asked for, and the first place where it can be executed is taken (`FoundAt`).
-/

namespace RevisionControl

open FileTree Host

variable {host : Host} {tool : Tool} {path name start executable : String} {error : Error}
  {root : Location}

/-! ## Executables on the search path -/

/-- A path leads to a file that may be executed. -/
def CanExecute (host : Host) (path : String) : Prop :=
  ∃ location content, host.files.reach host.directory path = .ok location ∧
    host.files.node? location = some (.file true content)

/-- The executable of a tool is in none of the directories of the search path. -/
def Missing (host : Host) (tool : Tool) : Prop :=
  ∀ place ∈ searchPath host.environment, ¬ CanExecute host (Path.join place tool.name)

/-- The executable of a tool is found in the first directory of the search path that has it. -/
def FoundAt (host : Host) (tool : Tool) (executable : String) : Prop :=
  ∃ before place later, searchPath host.environment = before ++ place :: later ∧
    executable = Path.join place tool.name ∧ CanExecute host executable ∧
    ∀ other ∈ before, ¬ CanExecute host (Path.join other tool.name)

theorem isOk_checkExecutable_iff :
    (checkExecutable host.files host.directory path).isOk = true ↔ CanExecute host path := by
  unfold checkExecutable CanExecute
  cases host.files.reach host.directory path with
  | error fault => exact ⟨nofun, fun ⟨_, _, h, _⟩ => nomatch h⟩
  | ok location =>
    constructor
    · intro h
      dsimp only [bind, Except.bind] at h
      split at h
      · rename_i content hnode
        exact ⟨location, content, rfl, hnode⟩
      · cases h
    · rintro ⟨_, content, ⟨⟩, hnode⟩
      simp only [bind, Except.bind, hnode]
      rfl

namespace Launcher

theorem find?_eq_some_iff : find? host tool.name (searchPath host.environment) = some executable ↔
    FoundAt host tool executable := by
  unfold find? FoundAt
  rw [List.find?_map, Option.map_eq_some_iff]
  constructor
  · rintro ⟨place, hplace, rfl⟩
    obtain ⟨hfound, before, later, hsplit, hbefore⟩ := List.find?_eq_some_iff_append.mp hplace
    refine ⟨before, place, later, hsplit, rfl, isOk_checkExecutable_iff.mp hfound, ?_⟩
    intro other hmem hother
    have hnot := hbefore other hmem
    rw [Function.comp_apply, isOk_checkExecutable_iff.mpr hother] at hnot
    cases hnot
  · rintro ⟨before, place, later, hsplit, rfl, hfound, hbefore⟩
    refine ⟨place, List.find?_eq_some_iff_append.mpr ⟨?_, before, later, hsplit, ?_⟩, rfl⟩
    · exact isOk_checkExecutable_iff.mpr hfound
    · intro other hmem
      have hnot := mt isOk_checkExecutable_iff.mp (hbefore other hmem)
      rw [Function.comp_apply, Bool.eq_false_iff.mpr hnot]
      rfl

theorem find?_eq_none_iff :
    find? host tool.name (searchPath host.environment) = none ↔ Missing host tool := by
  unfold find? Missing
  rw [List.find?_map, Option.map_eq_none_iff, List.find?_eq_none]
  exact forall₂_congr fun place _ => not_congr isOk_checkExecutable_iff

end Launcher

/-- Either there is no executable of a tool on the search path, or there is a first one. -/
theorem missing_or_foundAt (host : Host) (tool : Tool) :
    Missing host tool ∨ ∃ executable, FoundAt host tool executable := by
  cases hfind : Launcher.find? host tool.name (searchPath host.environment) with
  | none => exact Or.inl (Launcher.find?_eq_none_iff.mp hfind)
  | some executable => exact Or.inr ⟨executable, Launcher.find?_eq_some_iff.mp hfind⟩

namespace WorkingCopy

/-- The working copy that is bound to a directory. -/
def bound (host : Host) (tool : Tool) (root executable : String) : WorkingCopy :=
  ⟨tool, ⟨root, executable, host.environment.set tool.forced.1 tool.forced.2⟩⟩

theorem bind_of_missing (h : Missing host tool) (root : String) :
    bind host tool root = .error (.toolNotFound tool.name) := by
  unfold bind Launcher.bind
  rw [Launcher.find?_eq_none_iff.mpr h]
  rfl

theorem bind_of_foundAt (h : FoundAt host tool executable) (root : String) :
    bind host tool root = .ok (bound host tool root executable) := by
  unfold bind Launcher.bind
  rw [Launcher.find?_eq_some_iff.mpr h]
  rfl

theorem discover_of_findRoot (h : findRoot host start = .ok (root, tool)) :
    discover host start = bind host tool root.text := by
  unfold discover
  rw [h]
  rfl

theorem discover_of_not_findRoot (h : findRoot host start = .error error) :
    discover host start = .error error := by
  unfold discover
  rw [h]
  rfl

/-- Discovering a working copy goes by the search for its root. Where the search fails, so does the
discovery, with the same failure whatever the variables are, and so whatever tools are found. A root
that is found settles the tool. If its executable is missing, the failure says so, whichever other
marks and executables there are; otherwise the working copy is the one in the root, with that tool
and the first of its executables, and it is discovered again from its own path. It has to be one of
the two. No process is started: a discovery in a session leaves the host as it is. -/
theorem discover_follows_findRoot (host : Host) (start : String) :
    (∀ error, findRoot host start = .error error →
      error = .repositoryNotFound start ∧
        ∀ environment, discover { host with environment } start = .error error) ∧
    (∀ root tool, findRoot host start = .ok (root, tool) →
      (Missing host tool → discover host start = .error (.toolNotFound tool.name)) ∧
      (∀ executable, FoundAt host tool executable →
        ∃ copy, discover host start = .ok copy ∧ copy.tool = tool ∧ copy.path = root.text ∧
          copy.executable = executable ∧
          (host.Placed → discover host copy.path = .ok copy)) ∧
      (Missing host tool ∨ ∃ executable, FoundAt host tool executable)) ∧
    (∀ bindings name, ((Session.mk host bindings).perform (.discover name start)).2.host = host) := by
  refine ⟨fun error hlost => ⟨?_, fun environment => ?_⟩, fun root tool hfound => ⟨?_, ?_, ?_⟩,
    fun bindings name => ?_⟩
  · exact (findRoot_eq_error_iff.mp hlost).1
  · have hsame : findRoot { host with environment } start = .error error := hlost
    exact discover_of_not_findRoot hsame
  · intro hmissing
    rw [discover_of_findRoot hfound, bind_of_missing hmissing]
  · intro executable hexecutable
    refine ⟨bound host tool root.text executable, ?_, rfl, rfl, rfl, fun hplaced => ?_⟩
    · rw [discover_of_findRoot hfound, bind_of_foundAt hexecutable]
    · have hagain : findRoot host root.text = .ok (root, tool) := findRoot_root hplaced hfound
      exact (discover_of_findRoot hagain).trans (bind_of_foundAt hexecutable root.text)
  · exact missing_or_foundAt host tool
  · unfold Session.perform Session.keep
    dsimp only
    split <;> rfl

/-- Where both tools have left their marks and only Git can be executed, Mercurial is missing. -/
theorem discover_follows_root_of_hg :
    let files : FileTree := ⟨[(["w"], .directory), (["w", ".git"], .directory),
      (["w", ".hg"], .directory), (["b"], .directory), (["b", "git"], .file true [])]⟩
    FoundAt (Host.holding files "/b") .git "/b/git" ∧
      discover (Host.holding files "/b") "/w" = .error (.toolNotFound "hg") := by
  intro files
  have hgit : FoundAt (Host.holding files "/b") .git "/b/git" :=
    Launcher.find?_eq_some_iff.mp (by rfl)
  have hhg : Missing (Host.holding files "/b") .hg := Launcher.find?_eq_none_iff.mp (by rfl)
  have hfound : findRoot (Host.holding files "/b") "/w" = .ok (["w"], .hg) := by rfl
  obtain ⟨-, hroots, -⟩ := discover_follows_findRoot (Host.holding files "/b") "/w"
  exact ⟨hgit, (hroots _ _ hfound).1 hhg⟩

end WorkingCopy

end RevisionControl
