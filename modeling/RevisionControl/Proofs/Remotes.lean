import Mathlib.Logic.Relation
import RevisionControl.Proofs.Failures
import RevisionControl.Proofs.Text.Lines

/-!
# Proofs: the remote that is meant

Both tools list their remotes one per line, Git only if the current branch tracks no other
(`Lists`). Of the names in the listing one is chosen: the only one, or else the preferred one. The
order of the names makes no difference to the choice, so a listing may be edited in ways that leave
the names alone but for their order (`Edit`) without changing the remote that is found.
-/

namespace RevisionControl

open Host Text

/-! ## Hosts with known replies -/

/-- The reply of a process that prints a text, one byte for each character, and succeeds. -/
def printing (text : String) : Reply :=
  ⟨[], text.toList.map fun c => UInt8.ofNat c.toNat, [], .code 0⟩

/-- A host with the replies of the processes to come and one executable file, `/tool`. -/
def Host.answering (replies : List Reply) : Host where
  files := ⟨[(["tool"], .file true [])]⟩
  directory := []
  environment := ∅
  replies := replies
  lastReply := ⟨[], [], [], .code 1⟩
  calls := []
  scratch := []
  scratchCount := 0

/-- A host where no branch is tracked, and the processes after the one that says so print texts. -/
def Host.untracked (texts : List String) : Host :=
  .answering (⟨[], [], [], .code 128⟩ :: texts.map printing)

/-! ## The choice -/

variable {names names' candidates : List String} {name preferred : String} {error : Error}

theorem chooseRemote_of_length_ne_one (h : names.length ≠ 1) :
    chooseRemote names preferred =
      if preferred ∈ names then .ok preferred else .error (.ambiguousRemote names) := by
  unfold chooseRemote
  split
  · exact absurd rfl h
  · rfl

theorem chooseRemote_eq_ok_iff :
    chooseRemote names preferred = .ok name ↔
      names = [name] ∨ names.length ≠ 1 ∧ preferred ∈ names ∧ name = preferred := by
  by_cases hone : names.length = 1
  · obtain ⟨only, rfl⟩ := List.length_eq_one_iff.mp hone
    have hchoice : chooseRemote [only] preferred = .ok only := rfl
    rw [hchoice, Except.ok.injEq, List.cons.injEq]
    simp [hone]
  · rw [chooseRemote_of_length_ne_one hone]
    have hnames : names ≠ [name] := fun h => hone (h ▸ rfl)
    by_cases hmem : preferred ∈ names
    · rw [if_pos hmem, Except.ok.injEq]
      simp [hnames, hone, hmem, eq_comm]
    · rw [if_neg hmem]
      simp [hnames, hmem]

theorem chooseRemote_eq_error_iff :
    chooseRemote names preferred = .error error ↔
      names.length ≠ 1 ∧ preferred ∉ names ∧ error = .ambiguousRemote names := by
  by_cases hone : names.length = 1
  · obtain ⟨only, rfl⟩ := List.length_eq_one_iff.mp hone
    have hchoice : chooseRemote [only] preferred = .ok only := rfl
    rw [hchoice]
    simp
  · rw [chooseRemote_of_length_ne_one hone]
    by_cases hmem : preferred ∈ names
    · rw [if_pos hmem]
      simp [hmem]
    · rw [if_neg hmem, Except.error.injEq]
      simp [hone, hmem, eq_comm]

/-- The order of the names makes no difference to the one that is chosen. -/
theorem chooseRemote_perm (h : names.Perm names')
    (hname : chooseRemote names preferred = .ok name) :
    chooseRemote names' preferred = .ok name := by
  rw [chooseRemote_eq_ok_iff] at hname ⊢
  rcases hname with rfl | ⟨hcount, hmem, rfl⟩
  · exact Or.inl (List.singleton_perm.mp h).symm
  · exact Or.inr ⟨h.length_eq ▸ hcount, h.mem_iff.mp hmem, rfl⟩

/-! ## Edits of a listing -/

/-- An edit that leaves the names in some lines alone. -/
inductive Edit : List (List Char) → List (List Char) → Prop where
  /-- The lines are put into another order. -/
  | reorder {lines lines' : List (List Char)} (h : lines.Perm lines') : Edit lines lines'
  /-- A blank line is put in. -/
  | insertBlank {before after : List (List Char)} {line : List Char} (h : AllBlank line) :
      Edit (before ++ after) (before ++ line :: after)
  /-- A line is padded with blanks. -/
  | pad {before after : List (List Char)} {line left right : List Char} (hleft : AllBlank left)
      (hright : AllBlank right) :
      Edit (before ++ line :: after) (before ++ (left ++ line ++ right) :: after)

theorem Edit.perm {lines lines' : List (List Char)} (h : Edit lines lines') :
    (namesIn lines).Perm (namesIn lines') := by
  cases h with
  | reorder h => exact (h.map trimChars).filter _
  | @insertBlank before after line h =>
    rw [namesIn_append, namesIn_append, namesIn_cons line, namesIn_of_allBlank h]
    exact .refl _
  | @pad before after line left right hleft hright =>
    rw [namesIn_append, namesIn_append, namesIn_cons line, namesIn_cons (left ++ line ++ right),
      namesIn_pad hleft hright]

theorem perm_of_edits {lines lines' : List (List Char)} (h : Relation.EqvGen Edit lines lines') :
    (namesIn lines).Perm (namesIn lines') := by
  induction h with
  | rel _ _ h => exact h.perm
  | refl => exact .refl _
  | symm _ _ _ ih => exact ih.symm
  | trans _ _ _ _ _ ih ih' => exact ih.trans ih'

/-- The names in some lines, as texts. -/
def namesOf (lines : List (List Char)) : List String := (namesIn lines).map String.ofList

theorem listedNames_of_laid {lines : List (List Char)} {listing : String}
    (h : Laid lines listing.toList) : listedNames listing = namesOf lines := by
  unfold listedNames namesOf
  rw [listedChars_of_laid h]

/-! ## Asking for the remotes -/

/-- A tool that is asked for its remotes prints a listing and leaves a host. Git is asked only where
the query which branch is tracked fails with the exit code for none. -/
inductive Lists : WorkingCopy → Host → String → Host → Prop where
  /-- Mercurial lists its remotes. -/
  | hg {hg : Launcher} {host after : Host} {listing : String}
      (h : (hg.run ["paths", "--quiet"]).run host = (.ok listing, after)) :
      Lists ⟨.hg, hg⟩ host listing after
  /-- Git says that no branch is tracked, and lists its remotes. -/
  | git {git : Launcher} {host middle after : Host} {reason : Error} {listing : String}
      (htracked : (git.run Git.trackedQuery).run host = (.error reason, middle))
      (hcode : reason.exitCode? = some 128)
      (h : (git.run ["remote"]).run middle = (.ok listing, after)) :
      Lists ⟨.git, git⟩ host listing after

variable {copy : WorkingCopy} {host middle after : Host} {listing : String}

/-- Asking for a listing and choosing from it. -/
theorem run_choose (launcher : Launcher) (arguments : List String) (preferred : String)
    (host : Host) :
    (launcher.run arguments >>= fun listing =>
        (ExceptT.mk (pure (chooseListedRemote listing preferred)) : HostM Error String)).run host =
      (((launcher.run arguments).run host).1 >>= fun listing =>
          chooseListedRemote listing preferred,
        ((launcher.run arguments).run host).2) := by
  rw [HostM.run_bind]
  rcases (launcher.run arguments).run host with ⟨reason | listing, after⟩ <;> rfl

namespace Git

variable {git : Launcher} {output : String}

theorem remoteName_of_tracked (h : (git.run trackedQuery).run host = (.ok output, after)) :
    (remoteName git).run host = (.ok (beforeSlash (trim output)), after) := by
  unfold remoteName
  rw [HostM.run_bind, HostM.run_outcome, h]
  rfl

theorem remoteName_of_failed (h : (git.run trackedQuery).run host = (.error error, after))
    (hcode : error.exitCode? ≠ some 128) :
    (remoteName git).run host = (.error error, after) := by
  have hnot : ¬ error.exitCode? = some notTrackingCode := hcode
  unfold remoteName
  rw [HostM.run_bind, HostM.run_outcome, h]
  dsimp only
  rw [if_neg hnot]
  rfl

theorem remoteName_of_untracked (h : (git.run trackedQuery).run host = (.error error, middle))
    (hcode : error.exitCode? = some 128) :
    (remoteName git).run host =
      (((git.run ["remote"]).run middle).1 >>= fun listing =>
          chooseListedRemote listing Tool.git.usualRemote,
        ((git.run ["remote"]).run middle).2) := by
  have hnone : error.exitCode? = some notTrackingCode := hcode
  unfold remoteName
  rw [HostM.run_bind, HostM.run_outcome, h]
  dsimp only
  rw [if_pos hnone]
  exact run_choose git ["remote"] Tool.git.usualRemote middle

/-- What stands before the first slash, and the rest. -/
theorem beforeSlash_append (s : String) :
    ∃ rest, s = beforeSlash s ++ rest ∧ '/' ∉ (beforeSlash s).toList ∧
      (rest = "" ∨ ∃ more, rest = "/" ++ more) := by
  refine ⟨String.ofList (s.toList.dropWhile (· != '/')), ?_, ?_, ?_⟩
  · unfold beforeSlash
    rw [← String.ofList_append, List.takeWhile_append_dropWhile, String.ofList_toList]
  · unfold beforeSlash
    rw [String.toList_ofList]
    intro hmem
    have hslash := List.all_takeWhile (p := (· != '/')) (l := s.toList)
    have hne := List.all_eq_true.mp hslash '/' hmem
    exact absurd hne (by decide)
  · cases hrest : s.toList.dropWhile (· != '/') with
    | nil => exact Or.inl rfl
    | cons c more =>
      have hhead := List.head?_dropWhile_not (· != '/') s.toList
      rw [hrest] at hhead
      have hc : c = '/' := by simpa using hhead
      subst hc
      exact Or.inr ⟨String.ofList more, @String.ofList_append ['/'] more⟩

end Git

theorem Lists.remoteName_run (h : Lists copy host listing after) :
    copy.remoteName.run host = (chooseListedRemote listing copy.tool.usualRemote, after) := by
  cases h with
  | @hg hg _ _ _ h =>
    have hran := run_choose hg ["paths", "--quiet"] Tool.hg.usualRemote host
    rw [h] at hran
    exact hran
  | @git git _ _ _ _ _ htracked hcode h =>
    have hran := Git.remoteName_of_untracked htracked hcode
    rw [h] at hran
    exact hran

theorem trimmed_of_mem_namesOf {lines : List (List Char)} (h : name ∈ namesOf lines) :
    Trimmed name.toList ∧ name.toList ≠ [] := by
  obtain ⟨chars, hchars, rfl⟩ := List.mem_map.mp h
  obtain ⟨line, -, rfl, hne⟩ := of_mem_namesIn hchars
  rw [String.toList_ofList]
  exact ⟨trimmed_trimChars line, hne⟩

/-- A remote that is found in a listing is one of its names. -/
theorem Lists.mem_of_ok {lines : List (List Char)} (h : Lists copy host listing after)
    (hlaid : Laid lines listing.toList) (hok : (copy.remoteName.run host).1 = .ok name) :
    name ∈ namesOf lines := by
  rw [h.remoteName_run, chooseListedRemote, listedNames_of_laid hlaid] at hok
  rcases chooseRemote_eq_ok_iff.mp hok with hname | ⟨-, hmem, rfl⟩
  · rw [hname]
    exact List.mem_singleton_self name
  · exact hmem

/-- A launch never fails for want of a clear remote. -/
theorem run_ne_ambiguousRemote (launcher : Launcher) (arguments : List String) (host : Host)
    (candidates : List String) :
    ((launcher.run arguments).run host).1 ≠ .error (.ambiguousRemote candidates) := by
  intro h
  rw [Launcher.run_eq_outcome] at h
  cases Attempt.outcome_eq_error_iff.mp h

theorem exists_listing_of_ambiguous {launcher : Launcher} {arguments : List String}
    (h : (((launcher.run arguments).run host).1 >>= fun listing =>
      chooseListedRemote listing preferred) = .error (.ambiguousRemote candidates)) :
    ∃ listing after, (launcher.run arguments).run host = (.ok listing, after) := by
  have hreason := run_ne_ambiguousRemote launcher arguments host candidates
  rcases hran : (launcher.run arguments).run host with ⟨reason | listing, after⟩
  · rw [hran] at h hreason
    exact absurd h hreason
  · exact ⟨listing, after, rfl⟩

/-- If the remote is not clear, there was a listing. -/
theorem exists_lists_of_ambiguous
    (h : (copy.remoteName.run host).1 = .error (.ambiguousRemote candidates)) :
    ∃ listing after, Lists copy host listing after := by
  obtain ⟨tool, launcher⟩ := copy
  cases tool with
  | hg =>
    have hran := run_choose launcher ["paths", "--quiet"] Tool.hg.usualRemote host
    rw [show (WorkingCopy.remoteName ⟨.hg, launcher⟩).run host = _ from hran] at h
    obtain ⟨listing, after, hlist⟩ := exists_listing_of_ambiguous h
    exact ⟨listing, after, .hg hlist⟩
  | git =>
    rw [show WorkingCopy.remoteName ⟨.git, launcher⟩ = Git.remoteName launcher from rfl] at h
    rcases htracked : (launcher.run Git.trackedQuery).run host with ⟨reason | output, middle⟩
    · by_cases hcode : reason.exitCode? = some 128
      · rw [Git.remoteName_of_untracked htracked hcode] at h
        obtain ⟨listing, after, hlist⟩ := exists_listing_of_ambiguous h
        exact ⟨listing, after, .git htracked hcode hlist⟩
      · rw [Git.remoteName_of_failed htracked hcode] at h
        have hreason := run_ne_ambiguousRemote launcher Git.trackedQuery host candidates
        rw [htracked] at hreason
        exact absurd h hreason
    · rw [Git.remoteName_of_tracked htracked] at h
      cases h

/-- The remote that is meant is chosen from a listing, whose names are its lines, trimmed, without
the blank ones: the only name, or else the preferred one, and if there is no such name the failure
tells all of them in their order. So only a listed name is found, an edit of the lines that leaves
their names alone does not change it, and the remote is never called ambiguous where there is one
name or the preferred one is among them.

In a Git working copy there is only a listing if the query which branch is tracked fails with the
exit code for none. If it succeeds the remote is what it prints, trimmed, up to the first slash;
if it fails otherwise its failure is the failure; in both cases nothing is asked after it. -/
theorem remoteName_chosen_from_listing :
    (∀ (copy : WorkingCopy) (host after : Host) (listing : String) (lines : List (List Char)),
      Lists copy host listing after → Laid lines listing.toList →
      let names := ((lines.map trimChars).filter (!·.isEmpty)).map String.ofList
      let preferred := copy.tool.usualRemote
      let ran := copy.remoteName.run host
      (∀ name, names = [name] → ran = (.ok name, after)) ∧
      (names.length ≠ 1 → preferred ∈ names → ran = (.ok preferred, after)) ∧
      (names.length ≠ 1 → preferred ∉ names → ran = (.error (.ambiguousRemote names), after)) ∧
      ∀ name, ran.1 = .ok name → name ∈ names) ∧
    (∀ listing : String, ∃ lines, Laid lines listing.toList) ∧
    (∀ (copy copy' : WorkingCopy) (host host' after after' : Host) (listing listing' : String)
      (lines lines' : List (List Char)),
      copy.tool = copy'.tool → Lists copy host listing after → Lists copy' host' listing' after' →
      Laid lines listing.toList → Laid lines' listing'.toList → Relation.EqvGen Edit lines lines' →
      ∀ name, (copy.remoteName.run host).1 = .ok name → (copy'.remoteName.run host').1 = .ok name) ∧
    (∀ (copy : WorkingCopy) (host : Host) (candidates : List String),
      (copy.remoteName.run host).1 = .error (.ambiguousRemote candidates) →
      candidates.length ≠ 1 ∧ copy.tool.usualRemote ∉ candidates) ∧
    ∀ (git : Launcher) (host after : Host),
      (∀ output, (git.run Git.trackedQuery).run host = (.ok output, after) →
        ∃ remote rest, (WorkingCopy.remoteName ⟨.git, git⟩).run host = (.ok remote, after) ∧
          trim output = remote ++ rest ∧ '/' ∉ remote.toList ∧
          (rest = "" ∨ ∃ more, rest = "/" ++ more)) ∧
      ∀ error, (git.run Git.trackedQuery).run host = (.error error, after) →
        error.exitCode? ≠ some 128 →
        (WorkingCopy.remoteName ⟨.git, git⟩).run host = (.error error, after) := by
  refine ⟨?_, fun listing => ⟨_, laid_lines listing.toList⟩, ?_, ?_, fun git host after => ⟨?_, ?_⟩⟩
  · intro copy host after listing lines hlists hlaid names preferred ran
    have hran : ran = (chooseRemote names preferred, after) := by
      rw [show ran = _ from hlists.remoteName_run, chooseListedRemote, listedNames_of_laid hlaid]
      rfl
    refine ⟨fun name hname => ?_, fun hcount hmem => ?_, fun hcount hnot => ?_, fun name hok => ?_⟩
    · rw [hran, chooseRemote_eq_ok_iff.mpr (Or.inl hname)]
    · rw [hran, chooseRemote_of_length_ne_one hcount, if_pos hmem]
    · rw [hran, chooseRemote_of_length_ne_one hcount, if_neg hnot]
    · exact hlists.mem_of_ok hlaid hok
  · intro copy copy' host host' after after' listing listing' lines lines' htool hlists hlists'
      hlaid hlaid' hedits name hok
    rw [hlists.remoteName_run, chooseListedRemote, listedNames_of_laid hlaid] at hok
    rw [hlists'.remoteName_run, chooseListedRemote, listedNames_of_laid hlaid', ← htool]
    exact chooseRemote_perm ((perm_of_edits hedits).map String.ofList) hok
  · intro copy host candidates hambiguous
    obtain ⟨listing, after, hlists⟩ := exists_lists_of_ambiguous hambiguous
    rw [hlists.remoteName_run] at hambiguous
    obtain ⟨hcount, hnot, hcandidates⟩ := chooseRemote_eq_error_iff.mp hambiguous
    obtain rfl := Error.ambiguousRemote.inj hcandidates
    exact ⟨hcount, hnot⟩
  · intro output htracked
    obtain ⟨rest, happend, hnot, hrest⟩ := Git.beforeSlash_append (trim output)
    exact ⟨_, rest, Git.remoteName_of_tracked htracked, happend, hnot, hrest⟩
  · intro error hfailed hcode
    exact Git.remoteName_of_failed hfailed hcode

/-- Mercurial lists a remote twice, with a blank line and a padded one in between. -/
theorem remoteName_chosen_from_four_lines :
    ∃ after lines,
      Lists ⟨.hg, ⟨"/", "/tool", ∅⟩⟩ (Host.answering [printing "fork\r\n\n default \nfork"])
        "fork\r\n\n default \nfork" after ∧
      Laid lines "fork\r\n\n default \nfork".toList ∧
      (WorkingCopy.remoteName ⟨.hg, ⟨"/", "/tool", ∅⟩⟩).run
        (Host.answering [printing "fork\r\n\n default \nfork"]) = (.ok "default", after) := by
  have hran : ((Launcher.run ⟨"/", "/tool", ∅⟩ ["paths", "--quiet"]).run
      (Host.answering [printing "fork\r\n\n default \nfork"])).1 =
        .ok "fork\r\n\n default \nfork" := by rfl
  have hlists := Lists.hg (Prod.ext hran rfl)
  have hlaid := laid_lines "fork\r\n\n default \nfork".toList
  have hchosen := (remoteName_chosen_from_listing.1 _ _ _ _ _ hlists hlaid).2.1
  exact ⟨_, _, hlists, hlaid, hchosen (by decide) (by decide)⟩

end RevisionControl
