import RevisionControl.Proofs.DefaultBranch
import RevisionControl.Proofs.Remotes

/-!
# Proofs: the default branch that a clone recorded

Git prints the recorded branch behind the name of the remote and a slash. Only the text is looked
at, not the name that was asked for: the branch is taken to start behind the first slash. That is
where it starts if the remote has no slash in its name; if it has one, what stands behind it in the
name is taken for the start of the branch.
-/

namespace RevisionControl.Git

open Host Text

variable {git : Launcher} {host middle after : Host}
  {first rest branch remote output listing lineBreak : String}

/-! ## The first slash -/

theorem dropWhile_slash {first : List Char} (h : '/' ∉ first) (rest : List Char) :
    (first ++ '/' :: rest).dropWhile (· != '/') = '/' :: rest := by
  have hfirst : ∀ c ∈ first, (c != '/') = true := by
    intro c hc
    refine bne_iff_ne.mpr ?_
    rintro rfl
    exact h hc
  rw [List.dropWhile_append_of_pos hfirst]
  rfl

/-- A branch is what stands behind the first slash. -/
theorem branchBehindRemote?_append (hfirst : '/' ∉ first.toList) (hne : branch ≠ "")
    (hhead : branch ≠ "HEAD") : branchBehindRemote? (first ++ "/" ++ branch) = some branch := by
  have htext : (first ++ "/" ++ branch).toList = first.toList ++ '/' :: branch.toList := by
    rw [String.toList_append, String.toList_append, List.append_assoc]
    rfl
  have hchars : branch.toList ≠ ['H', 'E', 'A', 'D'] := by
    intro h
    exact hhead (String.toList_inj.mp h)
  unfold branchBehindRemote?
  rw [htext, dropWhile_slash hfirst]
  cases hbranch : branch.toList with
  | nil => exact absurd (String.toList_eq_nil_iff.mp hbranch) hne
  | cons c more =>
    rw [hbranch] at hchars
    dsimp only
    rw [if_neg hchars, ← hbranch, String.ofList_toList]

/-- A text with a slash is cut at the first one. -/
theorem exists_first_slash {s : String} (h : '/' ∈ s.toList) :
    ∃ first rest, s = first ++ "/" ++ rest ∧ '/' ∉ first.toList := by
  obtain ⟨first, rest, hs, hfirst⟩ := List.eq_append_cons_of_mem h
  refine ⟨String.ofList first, String.ofList rest, ?_, ?_⟩
  · rw [String.append_assoc, ← String.toList_inj, hs, String.toList_append, String.toList_append,
      String.toList_ofList, String.toList_ofList]
    exact congrArg (first ++ '/' :: ·) String.toList_ofList.symm
  · rwa [String.toList_ofList]

/-- The branch that is found behind a remote and a slash. -/
theorem branchBehindRemote?_of_remote (remote : String) (hne : branch ≠ "")
    (hhead : branch ≠ "HEAD") :
    ∃ name, branchBehindRemote? (remote ++ "/" ++ branch) = some name ∧
      (name = branch ↔ '/' ∉ remote.toList) ∧
      ∀ first rest, remote = first ++ "/" ++ rest → '/' ∉ first.toList →
        name = rest ++ "/" ++ branch := by
  have hcut : ∀ first rest, remote = first ++ "/" ++ rest → '/' ∉ first.toList →
      branchBehindRemote? (remote ++ "/" ++ branch) = some (rest ++ "/" ++ branch) := by
    rintro first rest rfl hfirst
    have htext : first ++ "/" ++ rest ++ "/" ++ branch =
        first ++ "/" ++ (rest ++ "/" ++ branch) := by
      simp only [String.append_assoc]
    have hslash : '/' ∈ (rest ++ "/" ++ branch).toList := by simp
    rw [htext]
    refine branchBehindRemote?_append hfirst ?_ ?_
    · intro h
      rw [h] at hslash
      exact absurd hslash (by decide)
    · intro h
      rw [h] at hslash
      exact absurd hslash (by decide)
  by_cases hslash : '/' ∈ remote.toList
  · obtain ⟨first, rest, hremote, hfirst⟩ := exists_first_slash hslash
    refine ⟨rest ++ "/" ++ branch, hcut first rest hremote hfirst, ?_, ?_⟩
    · refine iff_of_false ?_ (not_not_intro hslash)
      intro h
      have hlength := congrArg String.length h
      rw [String.length_append, String.length_append] at hlength
      have hone : "/".length = 1 := rfl
      omega
    · intro first' rest' hremote' hfirst'
      have hsame := hcut first' rest' hremote' hfirst'
      rw [hcut first rest hremote hfirst] at hsame
      exact Option.some.inj hsame
  · refine ⟨branch, branchBehindRemote?_append hslash hne hhead, iff_of_true rfl hslash, ?_⟩
    rintro first rest rfl -
    exact absurd (by simp) hslash

/-! ## The strategy -/

theorem recordedBranch_run (hremote : (remoteName git).run host = (.ok remote, middle))
    (hprints : (git.run ["rev-parse", "--abbrev-ref", remote ++ "/HEAD"]).run middle =
      (.ok output, after)) (hbranch : branchBehindRemote? (trim output) = some branch) :
    (recordedBranch git).run host = (.ok branch, after) := by
  unfold recordedBranch
  rw [HostM.run_bind_ok hremote, HostM.run_bind_ok hprints, hbranch]
  rfl

/-- If Git prints a branch behind a remote from the listing and a slash, and a line break after it,
the default branch is the branch just if the remote has no slash in its name. If it has one, what
stands behind the first slash in the remote and the slash after it are taken to belong to the
branch. -/
theorem defaultBranch_behind_first_slash (hlists : Lists ⟨.git, git⟩ host listing middle)
    (hremote : (WorkingCopy.remoteName ⟨.git, git⟩).run host = (.ok remote, middle))
    (hprints : (git.run ["rev-parse", "--abbrev-ref", remote ++ "/HEAD"]).run middle =
      (.ok (remote ++ "/" ++ branch ++ lineBreak), after))
    (hbreak : AllBlank lineBreak.toList) (hne : branch ≠ "") (hhead : branch ≠ "HEAD")
    (htrimmed : Trimmed branch.toList) :
    ∃ name, (WorkingCopy.defaultBranch ⟨.git, git⟩).run host = (.ok name, after) ∧
      (name = branch ↔ '/' ∉ remote.toList) ∧
      ∀ first rest, remote = first ++ "/" ++ rest → '/' ∉ first.toList →
        name = rest ++ "/" ++ branch := by
  have hmem := hlists.mem_of_ok (laid_lines listing.toList) (congrArg Prod.fst hremote)
  obtain ⟨htrimmed', hne'⟩ := trimmed_of_mem_namesOf hmem
  have hbranch : branch.toList ≠ [] := fun h => hne (String.toList_eq_nil_iff.mp h)
  have hprinted : Trimmed (remote ++ "/" ++ branch).toList := by
    rw [String.toList_append, String.toList_append]
    exact htrimmed'.enclose hne' htrimmed hbranch
  obtain ⟨name, hname, hcut⟩ := branchBehindRemote?_of_remote remote hne hhead
  rw [← trim_append hprinted hbreak] at hname
  refine ⟨name, ?_, hcut⟩
  show (findBranch git strategies []).run host = _
  rw [strategies, findBranch_cons, recordedBranch_run hremote hprints hname]

/-- A branch with a slash in its name is found whole. -/
theorem defaultBranch_behind_origin :
    ((WorkingCopy.defaultBranch ⟨.git, ⟨"/", "/tool", ∅⟩⟩).run
      (Host.untracked ["origin\n", "origin/release/1.0\n"])).1 = .ok "release/1.0" := by
  have htracked : ((Launcher.run ⟨"/", "/tool", ∅⟩ trackedQuery).run
      (Host.untracked ["origin\n", "origin/release/1.0\n"])).1 = .error (.commandFailed {
        command := "/tool rev-parse --verify --abbrev-ref --symbolic-full-name @\x7bu\x7d"
        exitCode := 128
        stdout := ""
        stderr := "" }) := by rfl
  have hlisting : ((Launcher.run ⟨"/", "/tool", ∅⟩ ["remote"]).run
      ((Launcher.run ⟨"/", "/tool", ∅⟩ trackedQuery).run
        (Host.untracked ["origin\n", "origin/release/1.0\n"])).2).1 = .ok "origin\n" := by rfl
  have hlists := Lists.git (Prod.ext htracked rfl) rfl (Prod.ext hlisting rfl)
  have hprints : ((Launcher.run ⟨"/", "/tool", ∅⟩ ["rev-parse", "--abbrev-ref", "origin/HEAD"]).run
      ((Launcher.run ⟨"/", "/tool", ∅⟩ ["remote"]).run
        ((Launcher.run ⟨"/", "/tool", ∅⟩ trackedQuery).run
          (Host.untracked ["origin\n", "origin/release/1.0\n"])).2).2).1 =
            .ok ("origin" ++ "/" ++ "release/1.0" ++ "\n") := by rfl
  have hbreak : AllBlank "\n".toList := by decide
  have htrimmed : Trimmed "release/1.0".toList := by decide
  obtain ⟨name, hname, hwhole, -⟩ := defaultBranch_behind_first_slash hlists hlists.remoteName_run
    (Prod.ext hprints rfl) hbreak (by decide) (by decide) htrimmed
  rw [hname, hwhole.mpr (by decide)]

/-- With a slash in the name of the remote, its second part is taken for the start of the branch. -/
theorem defaultBranch_behind_team_fork :
    ((WorkingCopy.remoteName ⟨.git, ⟨"/", "/tool", ∅⟩⟩).run
        (Host.untracked ["team/fork\n", "team/fork/main\n"])).1 = .ok "team/fork" ∧
      ((Launcher.run ⟨"/", "/tool", ∅⟩ ["rev-parse", "--abbrev-ref", "team/fork/HEAD"]).run
        ((WorkingCopy.remoteName ⟨.git, ⟨"/", "/tool", ∅⟩⟩).run
          (Host.untracked ["team/fork\n", "team/fork/main\n"])).2).1 = .ok "team/fork/main\n" ∧
      ((WorkingCopy.defaultBranch ⟨.git, ⟨"/", "/tool", ∅⟩⟩).run
        (Host.untracked ["team/fork\n", "team/fork/main\n"])).1 = .ok "fork/main" := by
  refine ⟨?_, ?_, ?_⟩ <;> rfl

end RevisionControl.Git
