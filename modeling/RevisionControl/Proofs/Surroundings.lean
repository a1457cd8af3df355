import RevisionControl.Proofs.Locations
import RevisionControl.Proofs.Roots

/-!
# Proofs: the root seen from between it and the start

A search for a root goes upwards from a directory, and what is above a location that stands is
directories again. So whoever starts in between, or at a file beside the way, goes up the last part
of the same way and finds the same root. The text of a place in between leads straight there, and
any other path that leads there, through whatever links, starts the same search.
-/

namespace RevisionControl

open FileTree

/-! ## Starts -/

variable {files : FileTree} {place directory root between : Location} {name start path : String}
  {tool : Tool} {host : Host}

theorem FileTree.Standing.startOf (h : Standing files place) :
    Standing files (startOf files place) ∧ files.isDirectory (startOf files place) = true := by
  unfold RevisionControl.startOf
  obtain ⟨node, hnode, hlink⟩ := h.no_link
  split
  · rename_i hfile
    have hne : place ≠ [] := by
      rintro rfl
      exact absurd hfile (by simp [isFile, node?])
    refine ⟨h.dropLast, h.isDirectory_above _ (List.dropLast_prefix place) fun heq => ?_⟩
    have hlength := congrArg List.length heq
    have hpos := List.length_pos_of_ne_nil hne
    rw [List.length_dropLast] at hlength
    omega
  · rename_i hfile
    refine ⟨h, isDirectory_iff.mpr ?_⟩
    cases node with
    | directory => exact hnode
    | file executable content => exact absurd (by simp [isFile, hnode]) hfile
    | link target => exact absurd rfl (hlink target)

theorem startOf_directory (h : files.isDirectory place = true) : startOf files place = place := by
  have hfile : ¬ files.isFile place = true := by
    unfold isFile
    rw [isDirectory_iff.mp h]
    exact Bool.false_ne_true
  rw [startOf, if_neg hfile]

theorem exists_node_of_isFile (h : files.isFile place = true) :
    ∃ node, files.node? place = some node ∧ ∀ target, node ≠ .link target := by
  unfold isFile at h
  split at h
  · rename_i hnode
    exact ⟨_, hnode, fun _ => nofun⟩
  · cases h

theorem startOf_file (h : files.isFile (between ++ [name]) = true) :
    startOf files (between ++ [name]) = between := by
  rw [startOf, if_pos h, List.dropLast_concat]

/-- A marked directory that is closest is so from anywhere below it on the same way. -/
theorem IsClosest.of_between (h : IsClosest files directory root) (hbelow : root <+: between)
    (habove : between <+: directory) : IsClosest files between root :=
  ⟨hbelow, h.2.1, fun other hother hmark => h.2.2 other (hother.trans habove) hmark⟩

/-- A host's current directory is a canonical one, unless it has been removed. -/
def Host.Placed (host : Host) : Prop :=
  host.files.isDirectory host.directory = true → Canonical host.files host.directory

/-- A root that has been found is the closest one to a directory that stands by itself. -/
theorem exists_start_of_findRoot (hplaced : host.Placed)
    (hfound : findRoot host start = .ok (root, tool)) :
    ∃ place, host.files.resolve host.directory start = .ok place ∧
      Standing host.files (startOf host.files place) ∧
      host.files.isDirectory (startOf host.files place) = true ∧
      IsClosest host.files (startOf host.files place) root ∧
      (tool = .hg ↔ HgMarked host.files root) := by
  obtain ⟨place, hplace, hclosest, htool⟩ := findRoot_eq_ok_iff.mp hfound
  have hstanding : Standing host.files place :=
    resolve_standing (fun hdirectory => canonical_iff.mp (hplaced hdirectory)) hplace
  obtain ⟨hstart, hdirectory⟩ := hstanding.startOf
  exact ⟨place, hplace, hstart, hdirectory, hclosest, htool⟩

/-- From two paths that start in the same directory, the same is found. -/
theorem findRoot_of_startOf {target : Location} (hclosest : IsClosest host.files between root)
    (htool : tool = .hg ↔ HgMarked host.files root)
    (hpath : host.files.resolve directory path = .ok target)
    (hstart : startOf host.files target = between) :
    findRoot { host with directory } path = .ok (root, tool) := by
  refine findRoot_eq_ok_iff.mpr ⟨target, hpath, ?_, htool⟩
  rw [← hstart] at hclosest
  exact hclosest

/-- The root that has been found is found from itself. -/
theorem findRoot_root (hplaced : host.Placed) (hfound : findRoot host start = .ok (root, tool)) :
    findRoot host root.text = .ok (root, tool) := by
  obtain ⟨place, -, hstart, hdirectory, hclosest, htool⟩ := exists_start_of_findRoot hplaced hfound
  have hroot : Standing host.files root := hstart.of_prefix hclosest.1
  have hinside := hstart.isDirectory_of_prefix hdirectory hclosest.1
  exact findRoot_of_startOf (hclosest.of_between (List.prefix_refl _) hclosest.1) htool
    (hroot.resolve_text host.directory) (startOf_directory hinside)

/-- If a search finds a root, then every directory from the root down to where it started, both of
them included, is canonical, as is every file directly in one of them. And from any path that leads
to one of these, through whatever links and from whatever current directory, the same root and tool
are found, so in particular from their own texts. -/
theorem findRoot_same_between (host : Host) (start : String) (root : Location) (tool : Tool)
    (hplaced : host.Placed) (hfound : findRoot host start = .ok (root, tool)) :
    ∃ place, host.files.resolve host.directory start = .ok place ∧
      root <+: startOf host.files place ∧
      ∀ between : Location, root <+: between → between <+: startOf host.files place →
        host.files.isDirectory between = true ∧ Canonical host.files between ∧
        findRoot host between.text = .ok (root, tool) ∧
        (∀ name, ProperName name → name.utf8ByteSize ≤ greatestNameSize →
          host.files.isFile (between ++ [name]) = true →
          Canonical host.files (between ++ [name]) ∧
            findRoot host (Location.text (between ++ [name])) = .ok (root, tool)) ∧
        ∀ directory path target, host.files.resolve directory path = .ok target →
          (target = between ∨
            host.files.isFile target = true ∧ ∃ name, target = between ++ [name]) →
          findRoot { host with directory } path = .ok (root, tool) := by
  obtain ⟨place, hplace, hstart, hdirectory, hclosest, htool⟩ :=
    exists_start_of_findRoot hplaced hfound
  refine ⟨place, hplace, hclosest.1, fun between hbelow habove => ?_⟩
  have hbetween : Standing host.files between := hstart.of_prefix habove
  have hinside := hstart.isDirectory_of_prefix hdirectory habove
  have hsame : ∀ directory path target, host.files.resolve directory path = .ok target →
      startOf host.files target = between →
      findRoot { host with directory } path = .ok (root, tool) := fun directory path target =>
    findRoot_of_startOf (hclosest.of_between hbelow habove) htool
  refine ⟨hinside, canonical_iff.mpr hbetween, ?_, fun name hname hsize hfile => ?_, ?_⟩
  · exact hsame host.directory _ _ (hbetween.resolve_text _) (startOf_directory hinside)
  · obtain ⟨node, hnode, hlink⟩ := exists_node_of_isFile hfile
    have hfound := hbetween.snoc hinside hname hsize hnode hlink
    exact ⟨canonical_iff.mpr hfound,
      hsame host.directory _ _ (hfound.resolve_text _) (startOf_file hfile)⟩
  · rintro directory path target hpath (rfl | ⟨hfile, name, rfl⟩)
    · exact hsame directory path _ hpath (startOf_directory hinside)
    · exact hsame directory path _ hpath (startOf_file hfile)

/-! ## A host with links -/

/-- A host with a file tree, at its root, and a search path. -/
def Host.holding (files : FileTree) (places : String) : Host where
  files := files
  directory := []
  environment := Host.Environment.empty.set searchVariable places
  replies := []
  lastReply := ⟨[], [], [], .code 1⟩
  calls := []
  scratch := []
  scratchCount := 0

theorem Host.placed_holding (files : FileTree) (places : String) :
    (Host.holding files places).Placed :=
  fun _ => canonical_iff.mpr (Standing.root files)

/-- A search starts at a link to a file in a working copy; the root is found from itself. -/
theorem findRoot_same_behind_link :
    let files : FileTree := ⟨[(["w"], .directory), (["w", ".git"], .directory),
      (["w", "s"], .directory), (["w", "s", "f"], .file false []), (["l"], .link "w/s/f")]⟩
    findRoot (Host.holding files "") "l" = .ok (["w"], .git) ∧
      findRoot (Host.holding files "") "/w" = .ok (["w"], .git) := by
  intro files
  have hfound : findRoot (Host.holding files "") "l" = .ok (["w"], .git) := by rfl
  obtain ⟨place, hplace, hroot, hsame⟩ :=
    findRoot_same_between (Host.holding files "") "l" ["w"] .git (Host.placed_holding files "") hfound
  obtain ⟨-, -, hagain, -⟩ := hsame ["w"] (List.prefix_refl _) hroot
  exact ⟨hfound, hagain⟩

end RevisionControl
