import RevisionControl.Proofs.Processes

/-!
# Proofs: the processes of each operation

Every operation on a working copy does to the host only what its launcher's processes do. Most start
one process, some a second one where the first does not settle the matter, and finding the default
branch of a Git working copy takes up to seven.
-/

namespace RevisionControl

open Host Launcher

namespace Git

variable (git : Launcher)

theorem startsAtMost_headRevision : git.StartsAtMost 1 (headRevision git) :=
  git.startsAtMost_runTrimmed _

theorem startsAtMost_baseRevision : git.StartsAtMost 2 (baseRevision git) := by
  show git.StartsAtMost (1 + 1) (baseRevision git)
  refine (git.startsAtMost_run _).bind fun listing => ?_
  split
  · exact (StartsAtMost.of_unchanged fun _ => rfl).mono (by omega)
  · exact startsAtMost_headRevision git

theorem startsAtMost_branch : git.StartsAtMost 1 (branch? git) :=
  (git.startsAtMost_runTrimmed _).bind fun _ => .of_unchanged fun _ => rfl

theorem startsAtMost_remoteName : git.StartsAtMost 2 (remoteName git) := by
  show git.StartsAtMost (1 + 1) (remoteName git)
  refine (git.startsAtMost_run trackedQuery).outcome.bind fun tracked => ?_
  cases tracked with
  | ok tracked => exact (StartsAtMost.of_unchanged fun _ => rfl).mono (by omega)
  | error reason =>
    dsimp only
    split
    · exact (git.startsAtMost_run _).bind fun _ => .of_unchanged fun _ => rfl
    · exact (StartsAtMost.of_unchanged fun _ => rfl).mono (by omega)

/-! ### The strategies -/

theorem startsAtMost_recordedBranch : git.StartsAtMost 3 (recordedBranch git) := by
  show git.StartsAtMost (2 + (1 + 0)) (recordedBranch git)
  refine (startsAtMost_remoteName git).bind fun remote => ?_
  refine (git.startsAtMost_run _).bind fun output => ?_
  split <;> exact .of_unchanged fun _ => rfl

theorem startsAtMost_remoteBranch : git.StartsAtMost 3 (remoteBranch git) := by
  show git.StartsAtMost (2 + (1 + 0)) (remoteBranch git)
  refine (startsAtMost_remoteName git).bind fun remote => ?_
  refine (git.startsAtMost_run _).bind fun output => ?_
  split <;> exact .of_unchanged fun _ => rfl

theorem startsAtMost_localBranch : git.StartsAtMost 1 (localBranch git) := by
  show git.StartsAtMost (1 + 0) (localBranch git)
  refine (git.startsAtMost_run _).bind fun output => ?_
  split <;> exact .of_unchanged fun _ => rfl

/-- Strategies that are tried in a row start at most what they start one by one. -/
theorem startsAtMost_findBranch (limit : Strategy → Nat) (strategies : List Strategy)
    (h : ∀ strategy ∈ strategies, git.StartsAtMost (limit strategy) (strategy.find git))
    (attempts : List String) :
    git.StartsAtMost (strategies.foldr (fun strategy rest => limit strategy + rest) 0)
      (findBranch git strategies attempts) := by
  induction strategies generalizing attempts with
  | nil => exact .of_unchanged fun _ => rfl
  | cons strategy more ih =>
    have rest := fun attempts => ih (fun s hs => h s (List.mem_cons_of_mem _ hs)) attempts
    rw [List.foldr_cons]
    refine (h strategy List.mem_cons_self).outcome.bind fun outcome => ?_
    cases outcome with
    | ok branch => exact (StartsAtMost.of_unchanged fun _ => rfl).mono (Nat.zero_le _)
    | error reason =>
      dsimp only
      split
      · exact rest _
      · exact (StartsAtMost.of_unchanged fun _ => rfl).mono (Nat.zero_le _)

/-- The most that a strategy starts. -/
def callLimit (strategy : Strategy) : Nat := if strategy.name = "local branch scan" then 1 else 3

theorem startsAtMost_defaultBranch : git.StartsAtMost 7 (defaultBranch git) := by
  refine startsAtMost_findBranch git callLimit strategies ?_ []
  intro strategy h
  simp only [strategies, List.mem_cons, List.not_mem_nil, or_false] at h
  rcases h with rfl | rfl | rfl
  · exact startsAtMost_recordedBranch git
  · exact startsAtMost_remoteBranch git
  · exact startsAtMost_localBranch git

/-! ### Other operations -/

theorem startsAtMost_isClean (untracked ignored : Bool) :
    git.StartsAtMost 1 (isClean git untracked ignored) :=
  (git.startsAtMost_run _).bind fun _ => .of_unchanged fun _ => rfl

theorem startsAtMost_update (reference : String) :
    git.StartsAtMost 1 (update git reference) :=
  (git.startsAtMost_run _).bind fun _ => .of_unchanged fun _ => rfl

end Git

namespace Mercurial

variable (hg : Launcher)

theorem startsAtMost_headRevision : hg.StartsAtMost 1 (headRevision hg) :=
  hg.startsAtMost_runTrimmed _

theorem startsAtMost_baseRevision : hg.StartsAtMost 2 (baseRevision hg) := by
  show hg.StartsAtMost (1 + 1) (baseRevision hg)
  refine (hg.startsAtMost_runTrimmed _).bind fun base => ?_
  split
  · exact startsAtMost_headRevision hg
  · exact (StartsAtMost.of_unchanged fun _ => rfl).mono (by omega)

/-- The current bookmark is read from a file; no process is started for it. -/
theorem startsAtMost_branch : hg.StartsAtMost 0 (branch? hg) := by
  show hg.StartsAtMost (0 + 0) (branch? hg)
  have read : hg.StartsAtMost 0 (Host.readText (bookmarkFile hg.root)) :=
    .of_unchanged fun _ => rfl
  refine read.outcome.bind fun content => ?_
  split <;> exact .of_unchanged fun _ => rfl

theorem startsAtMost_remoteName : hg.StartsAtMost 1 (remoteName hg) :=
  (hg.startsAtMost_run _).bind fun _ => .of_unchanged fun _ => rfl

theorem startsAtMost_isClean (untracked ignored : Bool) :
    hg.StartsAtMost 1 (isClean hg untracked ignored) :=
  (hg.startsAtMost_run _).bind fun _ => .of_unchanged fun _ => rfl

theorem startsAtMost_update (reference : String) :
    hg.StartsAtMost 1 (update hg reference) :=
  (hg.startsAtMost_run _).bind fun _ => .of_unchanged fun _ => rfl

end Mercurial

/-! ## Operations on working copies -/

/-- The most processes that an operation starts. -/
def Operation.callLimit : Tool → Operation → Nat
  | .git, .defaultBranch => 7
  | _, _ => 2

theorem Operation.one_le_callLimit (tool : Tool) (operation : Operation) :
    1 ≤ operation.callLimit tool := by
  unfold callLimit
  split <;> decide

/-- Every operation does to the host what a few processes of the working copy do. -/
theorem WorkingCopy.startsAtMost_perform (copy : WorkingCopy) (operation : Operation) :
    copy.launcher.StartsAtMost (operation.callLimit copy.tool) (copy.perform operation) := by
  obtain ⟨tool, launcher⟩ := copy
  have one := operation.one_le_callLimit tool
  cases tool with
  | git =>
    cases operation with
    | headRevision => exact ((Git.startsAtMost_headRevision launcher).map _).mono one
    | baseRevision => exact (Git.startsAtMost_baseRevision launcher).map _
    | branch => exact ((Git.startsAtMost_branch launcher).map _).mono one
    | remoteName => exact (Git.startsAtMost_remoteName launcher).map _
    | defaultBranch => exact (Git.startsAtMost_defaultBranch launcher).map _
    | url remote => exact ((launcher.startsAtMost_runTrimmed _).map _).mono one
    | commitMessage revision => exact ((launcher.startsAtMost_run _).map _).mono one
    | isClean untracked ignored =>
      exact ((Git.startsAtMost_isClean launcher untracked ignored).map _).mono one
    | update reference =>
      exact ((Git.startsAtMost_update launcher reference).map _).mono one
  | hg =>
    cases operation with
    | headRevision => exact ((Mercurial.startsAtMost_headRevision launcher).map _).mono one
    | baseRevision => exact (Mercurial.startsAtMost_baseRevision launcher).map _
    | branch => exact ((Mercurial.startsAtMost_branch launcher).map _).mono (Nat.zero_le _)
    | remoteName => exact ((Mercurial.startsAtMost_remoteName launcher).map _).mono one
    | defaultBranch => exact ((StartsAtMost.of_unchanged fun _ => rfl).map _).mono (Nat.zero_le _)
    | url remote => exact ((launcher.startsAtMost_runTrimmed _).map _).mono one
    | commitMessage revision => exact ((launcher.startsAtMost_run _).map _).mono one
    | isClean untracked ignored =>
      exact ((Mercurial.startsAtMost_isClean launcher untracked ignored).map _).mono one
    | update reference =>
      exact ((Mercurial.startsAtMost_update launcher reference).map _).mono one

end RevisionControl
