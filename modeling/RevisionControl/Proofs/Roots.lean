import RevisionControl.Discovery

/-!
# Proofs: the root of the working copy around a path

The directories from a place upwards are the prefixes of its location, the longer first. So the
first of them that holds a mark is the longest that does (`closestRoot?_eq_some_iff`), and whether
it is Mercurial's depends on its own marks alone.

A mark is decided by where it leads: the directories that are marked are described here without the
search (`HgMarked`, `GitMarked`).
-/

namespace RevisionControl

open FileTree

/-! ## Upwards -/

namespace FileTree.Location

theorem mem_upwards_iff {place other : Location} : other ∈ place.upwards ↔ other <+: place := by
  induction place generalizing other with
  | nil =>
    rw [upwards, List.mem_singleton, List.prefix_nil]
  | cons name rest ih =>
    rw [upwards, List.mem_append, List.mem_map, List.mem_singleton, List.prefix_cons_iff]
    constructor
    · rintro (⟨below, hbelow, rfl⟩ | rfl)
      · exact Or.inr ⟨below, rfl, ih.mp hbelow⟩
      · exact Or.inl rfl
    · rintro (rfl | ⟨below, rfl, hbelow⟩)
      · exact Or.inr rfl
      · exact Or.inl ⟨below, ih.mpr hbelow, rfl⟩

/-- On the way upwards locations become shorter. -/
theorem pairwise_upwards (place : Location) :
    place.upwards.Pairwise (fun lower upper => upper.length < lower.length) := by
  induction place with
  | nil => exact List.pairwise_singleton _ _
  | cons name rest ih =>
    rw [upwards, List.pairwise_append]
    refine ⟨?_, List.pairwise_singleton _ _, fun lower hlower upper hupper => ?_⟩
    · rw [List.pairwise_map]
      exact ih.imp fun h => Nat.succ_lt_succ h
    · obtain ⟨below, -, rfl⟩ := List.mem_map.mp hlower
      rw [List.mem_singleton.mp hupper]
      exact Nat.succ_pos _

end FileTree.Location

/-! ## Marks -/

/-- A directory holds the mark of Mercurial: an entry `.hg` that leads to a directory. -/
def HgMarked (files : FileTree) (directory : Location) : Prop :=
  ∃ location, files.resolve directory ".hg" = .ok location ∧
    files.node? location = some .directory

/-- A directory holds the mark of Git: an entry `.git` that leads to anything. -/
def GitMarked (files : FileTree) (directory : Location) : Prop :=
  ∃ location node, files.resolve directory ".git" = .ok location ∧
    files.node? location = some node

/-- A directory holds a mark. -/
def Marked (files : FileTree) (directory : Location) : Prop :=
  HgMarked files directory ∨ GitMarked files directory

theorem FileTree.nodeAt?_eq_some_iff {files : FileTree} {directory : Location} {path : String}
    {node : Node} :
    files.nodeAt? directory path = some node ↔
      ∃ location, files.resolve directory path = .ok location ∧
        files.node? location = some node := by
  unfold nodeAt?
  cases files.resolve directory path with
  | ok location =>
    refine ⟨fun h => ⟨location, rfl, h⟩, ?_⟩
    rintro ⟨_, ⟨⟩, h⟩
    exact h
  | error fault =>
    refine ⟨fun h => absurd h (Option.some_ne_none _).symm, ?_⟩
    rintro ⟨_, ⟨⟩, _⟩

theorem hgMarked_iff {files : FileTree} {directory : Location} :
    files.nodeAt? directory Tool.hg.mark = some .directory ↔ HgMarked files directory :=
  nodeAt?_eq_some_iff

theorem gitMarked_iff {files : FileTree} {directory : Location} :
    (files.nodeAt? directory Tool.git.mark).isSome ↔ GitMarked files directory := by
  rw [Option.isSome_iff_exists]
  constructor
  · rintro ⟨node, h⟩
    obtain ⟨location, hlocation, hnode⟩ := nodeAt?_eq_some_iff.mp h
    exact ⟨location, node, hlocation, hnode⟩
  · rintro ⟨location, node, hlocation, hnode⟩
    exact ⟨node, nodeAt?_eq_some_iff.mpr ⟨location, hlocation, hnode⟩⟩

theorem markedBy?_of_hgMarked {files : FileTree} {directory : Location}
    (h : HgMarked files directory) : markedBy? files directory = some .hg :=
  if_pos (hgMarked_iff.mpr h)

theorem markedBy?_of_gitMarked {files : FileTree} {directory : Location}
    (h : ¬ HgMarked files directory) (h' : GitMarked files directory) :
    markedBy? files directory = some .git :=
  (if_neg (mt hgMarked_iff.mp h)).trans (if_pos (gitMarked_iff.mpr h'))

theorem markedBy?_eq_none_iff {files : FileTree} {directory : Location} :
    markedBy? files directory = none ↔ ¬ Marked files directory := by
  constructor
  · rintro h (hhg | hgit)
    · rw [markedBy?_of_hgMarked hhg] at h
      cases h
    · by_cases hhg : HgMarked files directory
      · rw [markedBy?_of_hgMarked hhg] at h
        cases h
      · rw [markedBy?_of_gitMarked hhg hgit] at h
        cases h
  · intro h
    unfold Marked at h
    rw [not_or] at h
    exact (if_neg (mt hgMarked_iff.mp h.1)).trans (if_neg (mt gitMarked_iff.mp h.2))

/-- The tool of a marked directory is Mercurial exactly if Mercurial's mark is there. -/
theorem markedBy?_eq_some_iff {files : FileTree} {directory : Location} {tool : Tool} :
    markedBy? files directory = some tool ↔
      Marked files directory ∧ (tool = .hg ↔ HgMarked files directory) := by
  by_cases hhg : HgMarked files directory
  · rw [markedBy?_of_hgMarked hhg]
    constructor
    · rintro ⟨⟩
      exact ⟨Or.inl hhg, fun _ => hhg, fun _ => rfl⟩
    · rintro ⟨-, htool⟩
      rw [htool.mpr hhg]
  · by_cases hgit : GitMarked files directory
    · rw [markedBy?_of_gitMarked hhg hgit]
      constructor
      · rintro ⟨⟩
        exact ⟨Or.inr hgit, fun h => (nomatch h), fun h => absurd h hhg⟩
      · rintro ⟨-, htool⟩
        cases tool with
        | hg => exact absurd (htool.mp rfl) hhg
        | git => rfl
    · have hmarked : ¬ Marked files directory := fun h => h.elim hhg hgit
      rw [markedBy?_eq_none_iff.mpr hmarked]
      exact ⟨fun h => (nomatch h), fun h => absurd h.1 hmarked⟩

/-! ## The closest marked directory -/

/-- Of a directory and those above it, the longest that holds a mark. -/
def IsClosest (files : FileTree) (directory root : Location) : Prop :=
  root <+: directory ∧ Marked files root ∧
    ∀ other, other <+: directory → Marked files other → other.length ≤ root.length

/-- On the way upwards from a directory every directory is shorter than the ones before it. -/
theorem length_lt_of_upwards {directory place : Location} {lower upper : List Location}
    (h : directory.upwards = lower ++ place :: upper) :
    (∀ other ∈ lower, place.length < other.length) ∧
      ∀ other ∈ upper, other.length < place.length := by
  have hpairwise := directory.pairwise_upwards
  rw [h, List.pairwise_append, List.pairwise_cons] at hpairwise
  obtain ⟨-, ⟨hupper, -⟩, hlower⟩ := hpairwise
  exact ⟨fun other hother => hlower other hother place List.mem_cons_self, hupper⟩

/-- The first marked directory on the way upwards is the longest one, and its tool goes by its own
marks. -/
theorem closestRoot?_eq_some_iff {files : FileTree} {directory root : Location} {tool : Tool} :
    closestRoot? files directory = some (root, tool) ↔
      IsClosest files directory root ∧ (tool = .hg ↔ HgMarked files root) := by
  unfold closestRoot? IsClosest
  rw [List.findSome?_eq_some_iff]
  constructor
  · rintro ⟨lower, place, upper, hsplit, hplace, hlower⟩
    obtain ⟨found, hfound, heq⟩ := Option.map_eq_some_iff.mp hplace
    obtain ⟨rfl, rfl⟩ := Prod.mk.inj heq
    obtain ⟨hmarked, htool⟩ := markedBy?_eq_some_iff.mp hfound
    have hroot : place ∈ directory.upwards := by
      rw [hsplit]
      exact List.mem_append_right _ List.mem_cons_self
    refine ⟨⟨Location.mem_upwards_iff.mp hroot, hmarked, fun other hother hmark => ?_⟩, htool⟩
    have hmem := Location.mem_upwards_iff.mpr hother
    rw [hsplit, List.mem_append, List.mem_cons] at hmem
    rcases hmem with hmem | rfl | hmem
    · have hnone := Option.map_eq_none_iff.mp (hlower other hmem)
      exact absurd hmark (markedBy?_eq_none_iff.mp hnone)
    · exact Nat.le_refl _
    · exact Nat.le_of_lt ((length_lt_of_upwards hsplit).2 other hmem)
  · rintro ⟨⟨habove, hmarked, hlongest⟩, htool⟩
    obtain ⟨lower, upper, hsplit⟩ := List.append_of_mem (Location.mem_upwards_iff.mpr habove)
    refine ⟨lower, root, upper, hsplit, ?_, fun other hother => ?_⟩
    · rw [markedBy?_eq_some_iff.mpr ⟨hmarked, htool⟩]
      rfl
    · have hlt := (length_lt_of_upwards hsplit).1 other hother
      have hmem : other ∈ directory.upwards := by
        rw [hsplit]
        exact List.mem_append_left _ hother
      have hnone : ¬ Marked files other := fun hmark =>
        Nat.not_lt.mpr (hlongest other (Location.mem_upwards_iff.mp hmem) hmark) hlt
      rw [markedBy?_eq_none_iff.mpr hnone]
      rfl

theorem closestRoot?_eq_none_iff {files : FileTree} {directory : Location} :
    closestRoot? files directory = none ↔ ∀ other, other <+: directory → ¬ Marked files other := by
  unfold closestRoot?
  rw [List.findSome?_eq_none_iff]
  constructor
  · intro h other hother
    exact markedBy?_eq_none_iff.mp
      (Option.map_eq_none_iff.mp (h other (Location.mem_upwards_iff.mpr hother)))
  · intro h other hother
    rw [markedBy?_eq_none_iff.mpr (h other (Location.mem_upwards_iff.mp hother))]
    rfl

/-- Two file trees have the same marks in a directory, whatever else they hold there. -/
def SameMarks (files other : FileTree) (directory : Location) : Prop :=
  (HgMarked other directory ↔ HgMarked files directory) ∧
    (GitMarked other directory ↔ GitMarked files directory)

theorem SameMarks.marked_iff {files other : FileTree} {directory : Location}
    (h : SameMarks files other directory) : Marked other directory ↔ Marked files directory :=
  or_congr h.1 h.2

/-- Only the marks of the closest marked directory and of those below it matter. -/
theorem IsClosest.transport {files other : FileTree} {directory root : Location}
    (h : IsClosest files directory root)
    (hsame : ∀ place, root <+: place → place <+: directory → SameMarks files other place) :
    IsClosest other directory root := by
  obtain ⟨habove, hmarked, hlongest⟩ := h
  have hroot := hsame root (List.prefix_refl _) habove
  refine ⟨habove, hroot.marked_iff.mpr hmarked, fun place hplace hmark => ?_⟩
  -- Of two directories on one way upwards the longer is below the other.
  rcases Nat.le_total place.length root.length with hle | hle
  · exact hle
  · have hbelow := List.prefix_of_prefix_length_le habove hplace hle
    exact hlongest place hplace ((hsame place hbelow hplace).marked_iff.mp hmark)

/-! ## From a path -/

/-- The directory where the search from a place starts: that of a file, or the place itself. -/
def startOf (files : FileTree) (place : Location) : Location :=
  if files.isFile place then place.dropLast else place

theorem findRoot_of_resolve {host : Host} {start : String} {place : Location}
    (h : host.files.resolve host.directory start = .ok place) :
    findRoot host start =
      match closestRoot? host.files (startOf host.files place) with
      | none => .error (.repositoryNotFound start)
      | some found => .ok found := by
  unfold findRoot
  rw [h]
  rfl

theorem findRoot_of_not_resolve {host : Host} {start : String} {fault : Host.Fault}
    (h : host.files.resolve host.directory start = .error fault) :
    findRoot host start = .error (.repositoryNotFound start) := by
  unfold findRoot
  rw [h]

theorem findRoot_eq_ok_iff {host : Host} {start : String} {root : Location} {tool : Tool} :
    findRoot host start = .ok (root, tool) ↔
      ∃ place, host.files.resolve host.directory start = .ok place ∧
        IsClosest host.files (startOf host.files place) root ∧
        (tool = .hg ↔ HgMarked host.files root) := by
  constructor
  · intro h
    cases hplace : host.files.resolve host.directory start with
    | error fault =>
      rw [findRoot_of_not_resolve hplace] at h
      cases h
    | ok place =>
      rw [findRoot_of_resolve hplace] at h
      cases hfound : closestRoot? host.files (startOf host.files place) with
      | none =>
        rw [hfound] at h
        cases h
      | some found =>
        rw [hfound] at h
        cases h
        exact ⟨place, rfl, closestRoot?_eq_some_iff.mp hfound⟩
  · rintro ⟨place, hplace, hroot⟩
    rw [findRoot_of_resolve hplace, closestRoot?_eq_some_iff.mpr hroot]

/-- The search fails in one way only: with the path as it was given. -/
theorem findRoot_eq_error_iff {host : Host} {start : String} {error : Error} :
    findRoot host start = .error error ↔
      error = .repositoryNotFound start ∧
        ∀ place, host.files.resolve host.directory start = .ok place →
          ∀ above, above <+: startOf host.files place → ¬ Marked host.files above := by
  cases hplace : host.files.resolve host.directory start with
  | error fault =>
    rw [findRoot_of_not_resolve hplace]
    constructor
    · rintro ⟨⟩
      exact ⟨rfl, fun place hok => nomatch hok⟩
    · rintro ⟨rfl, -⟩
      rfl
  | ok place =>
    rw [findRoot_of_resolve hplace]
    constructor
    · intro h
      cases hfound : closestRoot? host.files (startOf host.files place) with
      | some found =>
        rw [hfound] at h
        cases h
      | none =>
        rw [hfound] at h
        cases h
        refine ⟨rfl, ?_⟩
        rintro _ ⟨⟩
        exact closestRoot?_eq_none_iff.mp hfound
    · rintro ⟨rfl, hnone⟩
      rw [closestRoot?_eq_none_iff.mpr (hnone place rfl)]

/-- The root around a path is the closest marked directory, starting from where the path leads
(beside it if that is a file). It is Mercurial's exactly if Mercurial's mark is there. If there is
none, or the path leads nowhere, the search fails with the path as it was given, and never
otherwise. What lies above the root, and entries named like a mark that are none, do not matter:
any tree with the same marks from the root down to the start gives the same root. -/
theorem findRoot_closest (host : Host) (start : String) :
    (∀ root tool, findRoot host start = .ok (root, tool) ↔
      ∃ place, host.files.resolve host.directory start = .ok place ∧
        IsClosest host.files (startOf host.files place) root ∧
        (tool = .hg ↔ HgMarked host.files root)) ∧
    (∀ error, findRoot host start = .error error ↔
      error = .repositoryNotFound start ∧
        ∀ place, host.files.resolve host.directory start = .ok place →
          ∀ above, above <+: startOf host.files place → ¬ Marked host.files above) ∧
    (∀ root tool place, findRoot host start = .ok (root, tool) →
      host.files.resolve host.directory start = .ok place →
      ∀ (other : Host) (start' : String) (place' : Location),
        other.files.resolve other.directory start' = .ok place' →
        startOf other.files place' = startOf host.files place →
        (∀ between, root <+: between → between <+: startOf host.files place →
          SameMarks host.files other.files between) →
        findRoot other start' = .ok (root, tool)) := by
  refine ⟨fun root tool => findRoot_eq_ok_iff, fun error => findRoot_eq_error_iff, ?_⟩
  intro root tool place hfound hplace other start' place' hplace' hstart hsame
  obtain ⟨_, hresolved, hclosest, htool⟩ := findRoot_eq_ok_iff.mp hfound
  cases hplace.symm.trans hresolved
  refine findRoot_eq_ok_iff.mpr ⟨place', hplace', ?_, ?_⟩
  · rw [hstart]
    exact hclosest.transport hsame
  · exact htool.trans (hsame root (List.prefix_refl _) hclosest.1).1.symm

end RevisionControl
