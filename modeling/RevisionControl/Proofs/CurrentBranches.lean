import RevisionControl.Proofs.BaseRevisions
import RevisionControl.Proofs.Directories
import RevisionControl.Proofs.Outputs

/-!
# Proofs: the current branch

The current bookmark is what its file holds, without the line ends that close it. That there is no
such file is an answer; that it cannot be read otherwise, or is no text, is a failure. Which of these
it is follows from the shape of the file tree (`Unreadable`). The current branch of Git is what Git
prints, without the blanks around it.
-/

namespace RevisionControl

open FileTree Host Text

theorem ne_some_empty (name : String) : (if name.isEmpty then none else some name) ≠ some "" := by
  split
  · nofun
  · next hne =>
    intro h
    rw [Option.some.inj h] at hne
    exact hne rfl

theorem trim_isEmpty_iff {output : String} :
    (trim output).isEmpty = true ↔ AllBlank output.toList := by
  have hempty : (trim output).isEmpty = true ↔ trimChars output.toList = [] := by
    rw [String.isEmpty_iff, trim, String.ofList_eq_empty_iff]
  rw [hempty]
  refine ⟨fun htrim => ?_, trimChars_of_allBlank⟩
  obtain ⟨left, right, hleft, hright, hpad⟩ := exists_pad output.toList
  rw [hpad, htrim, List.append_nil]
  intro c hc
  exact (List.mem_append.mp hc).elim (hleft c) (hright c)

/-! ## Bookmarks -/

namespace Mercurial

variable {hg : Launcher} {host : Host} {name ends : String} {fault : Fault} {bytes : List UInt8}

/-- The steps from the root of a working copy to the file with the current bookmark. -/
def bookmarkSteps : List Step := [.entry ".hg", .entry "bookmarks.current"]

/-- A way into the root of a working copy on which no bookmark can be read, and why. -/
inductive Unreadable (tree : FileTree) (root : Way) : Fault → Prop where
  /-- The root is missing, or a link on the way there leads nowhere. -/
  | noRoot {followed : Nat} {next : Way} (hle : followed ≤ greatestLinkCount)
      (hgoes : Goes tree followed root next) (hstop : Stop tree next .notFound) :
      Unreadable tree root .notFound
  /-- The root has no entry for Mercurial. -/
  | noMark {followed : Nat} {place : Location} (hle : followed ≤ greatestLinkCount)
      (hgoes : Goes tree followed root ⟨place, []⟩) (hfinds : Finds tree place ".hg" none) :
      Unreadable tree root .notFound
  /-- The entry for Mercurial is a file. -/
  | markIsFile {followed : Nat} {place : Location} {executable : Bool} {content : List UInt8}
      (hle : followed ≤ greatestLinkCount) (hgoes : Goes tree followed root ⟨place, []⟩)
      (hfinds : Finds tree place ".hg" (some (.file executable content))) :
      Unreadable tree root .notADirectory
  /-- There is no file with the current bookmark. -/
  | noFile {followed : Nat} {place : Location} (hle : followed ≤ greatestLinkCount)
      (hgoes : Goes tree followed (root.append [.entry ".hg"]) ⟨place, []⟩)
      (hfinds : Finds tree place "bookmarks.current" none) : Unreadable tree root .notFound
  /-- A link in place of the file leads nowhere. -/
  | danglingLink {before after : Nat} {place : Location} {target : String} {path : Path}
      {next : Way} (hle : before + 1 + after ≤ greatestLinkCount)
      (hgoes : Goes tree before (root.append [.entry ".hg"]) ⟨place, []⟩)
      (hfinds : Finds tree place "bookmarks.current" (some (.link target)))
      (hpath : Path.parse? target = .ok path) (hafter : Goes tree after (path.way place) next)
      (hstop : Stop tree next .notFound) : Unreadable tree root .notFound
  /-- There is a directory in place of the file. -/
  | isDirectory {followed : Nat} {place : Location} (hle : followed ≤ greatestLinkCount)
      (hgoes : Goes tree followed (root.append bookmarkSteps) ⟨place, []⟩)
      (hdirectory : tree.isDirectory place = true) : Unreadable tree root .isADirectory
  /-- There are too many links on the way to the file. -/
  | tooManyLinks {followed : Nat} {next : Way} (hlt : greatestLinkCount < followed)
      (hgoes : Goes tree followed (root.append bookmarkSteps) next) :
      Unreadable tree root .linkLoop
  /-- A link on the way to the file leads back to itself. -/
  | linkLoop {before followed : Nat} {next : Way} {more : List Step}
      (hgoes : Goes tree before (root.append bookmarkSteps) next)
      (hround : Goes tree followed next (next.append more)) (hpos : 0 < followed) :
      Unreadable tree root .linkLoop

theorem properName_mark : FileTree.ProperName ".hg" := by
  constructor <;> decide

theorem properName_bookmarks : FileTree.ProperName "bookmarks.current" := by
  constructor <;> decide

theorem parse?_bookmarkFile {directory : Location} {s : String} {root : Way}
    (hroot : wayInto directory s = .ok root) :
    ∃ path, Path.parse? (bookmarkFile s) = .ok path ∧
      path.way directory = root.append bookmarkSteps := by
  obtain ⟨path, hpath, hway⟩ :=
    parse?_join properName_bookmarks (wayInto_join properName_mark hroot)
  refine ⟨path, hpath, ?_⟩
  rw [hway, Way.append_append]
  rfl

/-- A walk to a bookmark that cannot be read ends so, or at a directory. -/
theorem Unreadable.walk_ends {tree : FileTree} {root : Way} (h : Unreadable tree root fault) :
    Ends tree greatestLinkCount (root.append bookmarkSteps) (.error fault) ∨
      fault = .isADirectory ∧ ∃ place, tree.isDirectory place = true ∧
        Ends tree greatestLinkCount (root.append bookmarkSteps) (.ok place) := by
  have hsteps : root.append bookmarkSteps =
      (root.append [.entry ".hg"]).append [.entry "bookmarks.current"] :=
    (root.append_append [.entry ".hg"] [.entry "bookmarks.current"]).symm
  cases h with
  | noRoot hle hgoes hstop => exact .inl (.stops hle (hgoes.append _) (hstop.append _))
  | noMark hle hgoes hfinds => exact .inl (.stops hle (hgoes.append bookmarkSteps) (.missing hfinds))
  | markIsFile hle hgoes hfinds =>
    have hthere := (hgoes.append bookmarkSteps).trans (.single (.down hfinds nofun))
    exact .inl (.stops (by omega) hthere (.notDirectory hfinds.node?_eq nofun))
  | noFile hle hgoes hfinds =>
    rw [hsteps]
    exact .inl (.stops hle (hgoes.append _) (.missing hfinds))
  | danglingLink hle hgoes hfinds hpath hafter hstop =>
    have hlink := (hgoes.append [.entry "bookmarks.current"]).trans (.single (.link hfinds hpath))
    have hthere := hlink.trans (hafter.append [])
    rw [hsteps]
    exact .inl (.stops (by omega) hthere (hstop.append []))
  | isDirectory hle hgoes hdirectory => exact .inr ⟨rfl, _, hdirectory, .arrives hle hgoes⟩
  | tooManyLinks hlt hgoes => exact .inl (hgoes.ends_linkLoop hlt)
  | linkLoop hgoes hround hpos =>
    obtain ⟨rounds, last, hle, hlast⟩ := hround.round hpos (greatestLinkCount + 1)
    exact .inl ((hgoes.trans hlast).ends_linkLoop (by omega))

theorem Unreadable.read_eq {tree : FileTree} {directory : Location} {s : String} {root : Way}
    (h : Unreadable tree root fault) (hroot : wayInto directory s = .ok root)
    (hsize : (bookmarkFile s).utf8ByteSize ≤ greatestPathSize) :
    tree.read directory (bookmarkFile s) = .error fault := by
  obtain ⟨path, hpath, hway⟩ := parse?_bookmarkFile hroot
  rcases h.walk_ends with hends | ⟨rfl, place, hdirectory, hends⟩
  · rw [← hway] at hends
    exact read_eq_of_ends hpath hsize hends
  · rw [← hway] at hends
    rw [read_eq_of_ends hpath hsize hends]
    show tree.contentAt place = _
    rw [contentAt, isDirectory_iff.mp hdirectory]

/-! ### Line ends -/

/-- A character that ends a line. -/
def IsLineEnd (c : Char) : Prop := c = '\r' ∨ c = '\n'

/-- Line ends behind a text that does not end in one are taken off, and nothing else. -/
theorem withoutLineEnds_append (hname : ∀ c ∈ name.toList.getLast?, ¬ IsLineEnd c)
    (hends : ∀ c ∈ ends.toList, IsLineEnd c) : withoutLineEnds (name ++ ends) = name := by
  have hline : ∀ c : Char, (c == '\r' || c == '\n') = true ↔ IsLineEnd c := by
    intro c
    simp [IsLineEnd]
  have hdrop : (name ++ ends).toList.reverse.dropWhile (fun c => c == '\r' || c == '\n') =
      name.toList.reverse := by
    rw [String.toList_append, List.reverse_append, List.dropWhile_append_of_pos]
    · cases hrev : name.toList.reverse with
      | nil => rfl
      | cons c rest =>
        have hc : c ∈ name.toList.getLast? := by
          rw [List.getLast?_eq_head?_reverse, hrev]
          rfl
        exact List.dropWhile_cons_of_neg fun hend => hname c hc ((hline c).mp hend)
    · intro c hc
      exact (hline c).mpr (hends c (List.mem_reverse.mp hc))
  rw [withoutLineEnds, hdrop, List.reverse_reverse, String.ofList_toList]

example : withoutLineEnds "\r a\nb \n\r\r\n" = "\r a\nb " := by decide

/-! ### The answer -/

/-- What is answered for what the file with the current bookmark holds. -/
def bookmarkIn : Except Fault String → Except Error (Option String)
  | .ok content =>
    .ok (if (withoutLineEnds content).isEmpty then none else some (withoutLineEnds content))
  | .error .notFound => .ok none
  | .error fault => .error (.io fault)

theorem branch?_of_read {content : Except Fault (List UInt8)}
    (h : host.files.read host.directory (bookmarkFile hg.root) = content) :
    (branch? hg).run host = (bookmarkIn (content >>= textOf), host) := by
  have hread : (Host.readText (bookmarkFile hg.root)).run host = (content >>= textOf, host) := by
    rw [← readText_eq h]
    rfl
  rw [branch?, HostM.run_bind, HostM.run_outcome, hread]
  rcases content >>= textOf with fault | text
  · cases fault <;> rfl
  · rfl

theorem bookmarkIn_of_fault (h : fault ≠ .notFound) : bookmarkIn (.error fault) = .error (.io fault) := by
  cases fault <;> first | exact absurd rfl h | rfl

theorem bookmarkIn_of_invalid (h : ¬ bytes.toByteArray.IsValidUTF8) :
    bookmarkIn (textOf bytes) = .error (.io .notText) := by
  unfold textOf
  cases hdecode : Utf8.decode? bytes with
  | ok text => exact absurd (Utf8.isValidUTF8_iff.mpr ⟨_, Utf8.decode?_eq_ok_iff.mp hdecode⟩) h
  | error fault => rfl

theorem bookmarkIn_of_named (hbytes : (name ++ ends).toUTF8 = bytes.toByteArray)
    (hends : ∀ c ∈ ends.toList, IsLineEnd c) (hname : ∀ c ∈ name.toList.getLast?, ¬ IsLineEnd c) :
    bookmarkIn (textOf bytes) = .ok (if name = "" then none else some name) := by
  have hdecode : Utf8.decode? bytes = .ok (name ++ ends) :=
    Utf8.decode?_eq_ok_iff.mpr (Utf8.toUTF8_eq_iff.mp hbytes)
  rw [textOf, hdecode]
  show Except.ok _ = _
  rw [withoutLineEnds_append hname hends]
  simp

theorem bookmarkIn_ne (content : Except Fault String) : bookmarkIn content ≠ .ok (some "") := by
  intro h
  unfold bookmarkIn at h
  split at h
  · exact ne_some_empty _ (Except.ok.inj h)
  · cases h
  · cases h

end Mercurial

/-! ## Branches -/

namespace Git

variable {git : Launcher} {host after : Host} {output : String} {reason : Error}

/-- The question for the current branch. -/
def branchQuery : List String := ["branch", "--show-current"]

theorem branch?_of_failed (h : (git.run branchQuery).run host = (.error reason, after)) :
    (branch? git).run host = (.error reason, after) := by
  refine HostM.run_bind_error ?_ _
  rw [Launcher.run_runTrimmed]
  rw [branchQuery] at h
  rw [h]
  rfl

/-- There is no answer for blanks alone, and otherwise the answer is what they surround. -/
theorem branch?_of_printed (h : (git.run branchQuery).run host = (.ok output, after)) :
    (branch? git).run host =
      (.ok (if (trim output).isEmpty then none else some (trim output)), after) := by
  have htrimmed : (git.runTrimmed branchQuery).run host = (.ok (trim output), after) := by
    rw [Launcher.run_runTrimmed, h]
    rfl
  exact HostM.run_bind_ok htrimmed _

end Git

namespace WorkingCopy

theorem branch?_ne_some_empty (copy : WorkingCopy) (host : Host) :
    (copy.branch?.run host).1 ≠ .ok (some "") := by
  obtain ⟨tool, launcher⟩ := copy
  intro h
  cases tool with
  | hg =>
    have hran : (branch? ⟨.hg, launcher⟩).run host = _ := Mercurial.branch?_of_read rfl
    rw [hran] at h
    exact Mercurial.bookmarkIn_ne _ h
  | git =>
    rcases hrun : (launcher.run Git.branchQuery).run host with ⟨reason | output, after⟩
    · have hran : (branch? ⟨.git, launcher⟩).run host = _ := Git.branch?_of_failed hrun
      rw [hran] at h
      cases h
    · have hran : (branch? ⟨.git, launcher⟩).run host = _ := Git.branch?_of_printed hrun
      rw [hran] at h
      exact ne_some_empty _ (Except.ok.inj h)

/-- The current branch of a Mercurial working copy is told by the file with the current bookmark
alone, which is read through links: it is the text in the file without line ends behind it, or none
if no text is left or no file is found, and any other fault is the answer. What is in the way of
the file tells the fault. The current branch of a Git working copy is what the one process for it
prints without the blanks around it, or none if there are only blanks. It is never empty. -/
theorem branch_told :
    (∀ (hg : Launcher) (host : Host),
      let file := Mercurial.bookmarkFile hg.root
      let read := host.files.read host.directory file
      let ran := (branch? ⟨.hg, hg⟩).run host
      ran.2 = host ∧
      (read = .error .notFound → ran.1 = .ok none) ∧
      (∀ fault, read = .error fault → fault ≠ .notFound → ran.1 = .error (.io fault)) ∧
      (∀ bytes, read = .ok bytes → ¬ bytes.toByteArray.IsValidUTF8 →
        ran.1 = .error (.io .notText)) ∧
      (∀ (bytes : List UInt8) (name ends : String), read = .ok bytes →
        (name ++ ends).toUTF8 = bytes.toByteArray →
        (∀ c ∈ ends.toList, Mercurial.IsLineEnd c) →
        (∀ c ∈ name.toList.getLast?, ¬ Mercurial.IsLineEnd c) →
        ran.1 = .ok (if name = "" then none else some name)) ∧
      ∀ root, wayInto host.directory hg.root = .ok root → file.utf8ByteSize ≤ greatestPathSize →
        (∀ result, Ends host.files greatestLinkCount (root.append Mercurial.bookmarkSteps) result →
          read = result >>= host.files.contentAt) ∧
        ∀ fault, Mercurial.Unreadable host.files root fault → read = .error fault) ∧
    (∀ (git : Launcher) (host after : Host),
      (∀ reason, (git.run Git.branchQuery).run host = (.error reason, after) →
        (branch? ⟨.git, git⟩).run host = (.error reason, after)) ∧
      ∀ output, (git.run Git.branchQuery).run host = (.ok output, after) →
        ∃ answer, (branch? ⟨.git, git⟩).run host = (.ok answer, after) ∧
          (answer = none ↔ AllBlank output.toList) ∧
          ∀ name, answer = some name → Trimmed name.toList ∧ ∃ left right,
            AllBlank left ∧ AllBlank right ∧ output.toList = left ++ name.toList ++ right) ∧
    ∀ (copy : WorkingCopy) (host : Host), (copy.branch?.run host).1 ≠ .ok (some "") := by
  refine ⟨?bookmark, ?branch, branch?_ne_some_empty⟩
  case bookmark =>
    intro hg host file read ran
    have htold : ∀ content, read = content →
        ran = (Mercurial.bookmarkIn (content >>= textOf), host) := fun content hread =>
      Mercurial.branch?_of_read hread
    refine ⟨by rw [htold _ rfl], fun hread => ?_, fun fault hread hfault => ?_,
      fun bytes hread hinvalid => ?_, fun bytes name ends hread hbytes hends hname => ?_,
      fun root hroot hsize => ⟨fun result hends => ?_, fun fault h => h.read_eq hroot hsize⟩⟩
    · rw [htold _ hread]
      rfl
    · rw [htold _ hread]
      exact Mercurial.bookmarkIn_of_fault hfault
    · rw [htold _ hread]
      exact Mercurial.bookmarkIn_of_invalid hinvalid
    · rw [htold _ hread]
      exact Mercurial.bookmarkIn_of_named hbytes hends hname
    · obtain ⟨path, hpath, hway⟩ := Mercurial.parse?_bookmarkFile hroot
      rw [← hway] at hends
      exact read_eq_of_ends hpath hsize hends
  case branch =>
    intro git host after
    refine ⟨fun reason h => Git.branch?_of_failed h, fun output h =>
      ⟨_, Git.branch?_of_printed h, ?_, fun name hname => ?_⟩⟩
    · rw [← trim_isEmpty_iff]
      split <;> simp [*]
    · split at hname
      · cases hname
      · rw [← Option.some.inj hname, trim, String.toList_ofList]
        exact ⟨trimmed_trimChars _, exists_pad _⟩

end WorkingCopy

end RevisionControl
