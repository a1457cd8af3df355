import RevisionControl.Proofs.Entries
import RevisionControl.Proofs.Processes
import RevisionControl.Proofs.Walks

/-!
# Proofs: writing files

A file is written where the walk along its path ends, through links: at a file that is there, or at
an entry that is missing in its directory (`WritesTo`). Nothing else in the tree is changed, so that
the same walk leads to the file afterwards, and what has been written is read.
-/

namespace RevisionControl.FileTree

open Host (Fault)

variable {tree : FileTree} {place directory : Location} {way next : Way} {name s : String}
  {steps : List Step} {links followed : Nat} {executable : Bool} {content : List UInt8}

/-! ## Walks that may make a file -/

/-- A way that means a directory. -/
def Way.EndsInSlash (way : Way) : Prop := ∃ before, way.steps = before ++ [.slash]

theorem EndsInSlash.tail {step : Step} {rest : List Step}
    (h : Way.EndsInSlash ⟨place, step :: rest⟩) : rest = [] ∧ step = .slash ∨
      ∀ place more, Way.EndsInSlash ⟨place, more ++ rest⟩ := by
  obtain ⟨before, hbefore⟩ := h
  cases before with
  | nil =>
    rw [List.nil_append, List.cons.injEq] at hbefore
    exact .inl hbefore.symm
  | cons first before =>
    rw [List.cons_append, List.cons.injEq] at hbefore
    refine .inr fun place more => ⟨more ++ before, ?_⟩
    rw [hbefore.2, List.append_assoc]

/-- A walk that means a directory goes on to mean one until it has come to one. -/
theorem Goes.endsInSlash (h : Goes tree followed way next) (hslash : way.EndsInSlash) :
    next.EndsInSlash ∨ next.steps = [] ∧ tree.isDirectory next.place = true := by
  induction h with
  | refl way => exact .inl hslash
  | move hmove hgoes ih =>
    cases hmove with
    | @stay place step rest hdirectory hstep =>
      rcases EndsInSlash.tail hslash with ⟨rfl, -⟩ | htail
      · cases hgoes with
        | refl => exact .inr ⟨rfl, hdirectory⟩
        | move hmove => cases hmove
      · exact ih (htail _ [])
    | up hdirectory =>
      rcases EndsInSlash.tail hslash with ⟨-, heq⟩ | htail
      · cases heq
      · exact ih (htail _ [])
    | down hfinds hnode =>
      rcases EndsInSlash.tail hslash with ⟨-, heq⟩ | htail
      · cases heq
      · exact ih (htail _ [])
    | link hfinds hpath =>
      rcases EndsInSlash.tail hslash with ⟨-, heq⟩ | htail
      · cases heq
      · exact ih (htail _ _)

/-- A leg that may make a file is an ordinary one, or it refuses a path that means a directory. -/
theorem leg_making (tree : FileTree) (place : Location) (steps : List Step) :
    leg tree true place steps = leg tree false place steps ∨
      leg tree true place steps = .refused .isADirectory ∧ Way.EndsInSlash ⟨place, steps⟩ := by
  induction steps generalizing place with
  | nil => exact .inl rfl
  | cons step rest ih =>
    have hrest : ∀ next, leg tree true next rest = leg tree false next rest ∨
        leg tree true next rest = .refused .isADirectory ∧
          Way.EndsInSlash ⟨place, step :: rest⟩ := by
      intro next
      rcases ih next with heq | ⟨heq, before, hbefore⟩
      · exact .inl heq
      · exact .inr ⟨heq, step :: before, congrArg (step :: ·) hbefore⟩
    unfold leg
    split
    · exact .inl rfl
    · cases step with
      | here => exact hrest place
      | slash => exact hrest place
      | up => exact hrest place.dropLast
      | entry name =>
        by_cases hslash : rest = [.slash]
        · exact .inr ⟨by simp [hslash], [.entry name], by rw [hslash]; rfl⟩
        · simp only [hslash, beq_iff_eq, Bool.true_and, Bool.false_and, if_false, Bool.false_eq_true]
          split
          · exact .inl rfl
          · split
            · exact .inl rfl
            · exact .inl rfl
            · exact hrest (place ++ [name])

/-- A walk that may make a file is an ordinary one, or it comes to mean a directory. By induction on
the links that may be followed. -/
theorem walkWithin_making (tree : FileTree) (links : Nat) (way : Way) :
    walkWithin tree true links way.place way.steps =
        walkWithin tree false links way.place way.steps ∨
      walkWithin tree true links way.place way.steps = .error .isADirectory ∧
        ∃ followed next, followed ≤ links ∧ Goes tree followed way next ∧ next.EndsInSlash := by
  induction links generalizing way with
  | zero =>
    rcases leg_making tree way.place way.steps with heq | ⟨heq, hslash⟩
    · exact .inl (by rw [walkWithin, walkWithin, heq])
    · exact .inr ⟨by rw [walkWithin, heq], 0, way, Nat.le_refl 0, .refl way, hslash⟩
  | succ links ih =>
    rcases leg_making tree way.place way.steps with heq | ⟨heq, hslash⟩
    · have htells := leg_tells tree way.place way.steps
      rw [walkWithin, walkWithin, heq]
      cases hleg : leg tree false way.place way.steps with
      | arrived arrival => exact .inl rfl
      | refused fault => exact .inl rfl
      | atLink directory target rest =>
        rw [hleg] at htells
        obtain ⟨name, hgoes, hfinds⟩ := htells
        dsimp only
        cases hpath : Path.parse? target with
        | error fault => exact .inl rfl
        | ok path =>
          have hlink := hgoes.trans (.single (.link hfinds hpath))
          rcases ih ((path.way directory).append rest) with heq | ⟨heq, more, next, hle, hmore, hslash⟩
          · exact .inl heq
          · exact .inr ⟨heq, _, next, Nat.succ_le_succ hle, hlink.trans hmore, hslash⟩
    · exact .inr ⟨by rw [walkWithin, heq], 0, way, Nat.zero_le _, .refl way, hslash⟩

/-- Where an ordinary walk ends at no directory, one that may make a file ends, too. -/
theorem walkWithin_making_of_ok {arrival : Arrival}
    (h : walkWithin tree false links way.place way.steps = .ok arrival)
    (hfile : ∀ place, arrival = .present place → tree.isDirectory place = false) :
    walkWithin tree true links way.place way.steps = .ok arrival := by
  rcases walkWithin_making tree links way with heq | ⟨-, followed, next, hle, hgoes, hslash⟩
  · rw [heq, h]
  · rw [hgoes.walkWithin_of_le hle] at h
    cases arrival with
    | present place =>
      obtain ⟨more, -, hmore⟩ := walkWithin_eq_present_iff.mp h
      rcases hmore.endsInSlash hslash with ⟨before, hbefore⟩ | ⟨-, hdirectory⟩
      · simp at hbefore
      · rw [hfile place rfl] at hdirectory
        cases hdirectory
    | absent directory name =>
      obtain ⟨more, -, hmore, -⟩ := walkWithin_eq_absent_iff.mp h
      rcases hmore.endsInSlash hslash with ⟨before, hbefore⟩ | ⟨hsteps, -⟩
      · have hlast := congrArg List.getLast? hbefore
        simp at hlast
      · cases hsteps

/-! ## The place of a file -/

/-- The place of the file to which a way leads, and whether the file may be executed there. -/
inductive LeadsToFile (tree : FileTree) (way : Way) : Location → Bool → Prop where
  | present {followed : Nat} {place : Location} {executable : Bool} {content : List UInt8}
      (hle : followed ≤ greatestLinkCount) (hgoes : Goes tree followed way ⟨place, []⟩)
      (hnode : tree.node? place = some (.file executable content)) :
      LeadsToFile tree way place executable
  | absent {followed : Nat} {directory : Location} {name : String}
      (hle : followed ≤ greatestLinkCount)
      (hgoes : Goes tree followed way ⟨directory, [.entry name]⟩)
      (hfinds : Finds tree directory name none) : LeadsToFile tree way (directory ++ [name]) false

/-- The place of the file that is written by a path. -/
def WritesTo (tree : FileTree) (directory : Location) (s : String) (place : Location)
    (executable : Bool) : Prop :=
  ∃ path, Path.parse? s = .ok path ∧ s.utf8ByteSize ≤ greatestPathSize ∧
    LeadsToFile tree (path.way directory) place executable

/-- What has been written is one file, at a place for it. -/
theorem writesTo_of_write {after : FileTree} (h : tree.write directory s content = .ok after) :
    ∃ place executable, WritesTo tree directory s place executable ∧
      after = tree.insert place (.file executable content) := by
  unfold write at h
  obtain ⟨path, hchecked, h⟩ := ok_of_bind_ok h
  obtain ⟨arrival, hwalk, h⟩ := ok_of_bind_ok h
  obtain ⟨hpath, hsize⟩ := checkedPath_eq_ok_iff.mp hchecked
  have hwalk : walkWithin tree true greatestLinkCount (path.way directory).place
    (path.way directory).steps = .ok arrival := hwalk
  have hplain : walkWithin tree false greatestLinkCount (path.way directory).place
      (path.way directory).steps = .ok arrival := by
    rcases walkWithin_making tree greatestLinkCount (path.way directory) with heq | ⟨heq, -⟩
    · rw [← heq, hwalk]
    · rw [heq] at hwalk
      cases hwalk
  cases arrival with
  | present place =>
    dsimp only at h
    obtain ⟨followed, hle, hgoes⟩ := walkWithin_eq_present_iff.mp hplain
    split at h
    · next executable before hnode =>
      exact ⟨place, executable, ⟨path, hpath, hsize, .present hle hgoes hnode⟩,
        (Except.ok.inj h).symm⟩
    · cases h
  | absent parent name =>
    obtain ⟨followed, hle, hgoes, hfinds⟩ := walkWithin_eq_absent_iff.mp hplain
    exact ⟨_, _, ⟨path, hpath, hsize, .absent hle hgoes hfinds⟩, (Except.ok.inj h).symm⟩

/-- A file is written where there is a place for it. -/
theorem WritesTo.write_eq {place : Location} {executable : Bool}
    (h : WritesTo tree directory s place executable) :
    tree.write directory s content = .ok (tree.insert place (.file executable content)) := by
  obtain ⟨path, hpath, hsize, hleads⟩ := h
  unfold write
  rw [checkedPath_eq_ok_iff.mpr ⟨hpath, hsize⟩]
  cases hleads with
  | @present followed _ _ before hle hgoes hnode =>
    have hplain := walkWithin_eq_present_iff.mpr ⟨followed, hle, hgoes⟩
    have hwalk : tree.walk true directory path = .ok (.present place) := by
      refine walkWithin_making_of_ok hplain fun other hother => ?_
      cases hother
      simp [isDirectory, hnode]
    simp only [bind, Except.bind, hwalk, hnode]
    rfl
  | @absent followed parent name hle hgoes hfinds =>
    have hplain := walkWithin_eq_absent_iff.mpr ⟨followed, hle, hgoes, hfinds⟩
    have hwalk : tree.walk true directory path = .ok (.absent parent name) := by
      refine walkWithin_making_of_ok hplain fun other hother => ?_
      cases hother
    show (tree.walk true directory path >>= _) = _
    rw [hwalk]
    rfl

/-- A file can be written if and only if there is a place for it, and nothing else is changed. -/
theorem write_eq_ok_iff {after : FileTree} : tree.write directory s content = .ok after ↔
    ∃ place executable, WritesTo tree directory s place executable ∧
      after = tree.insert place (.file executable content) := by
  constructor
  · exact writesTo_of_write
  · rintro ⟨place, executable, hwrites, rfl⟩
    exact hwrites.write_eq

/-! ## After writing -/

variable {node : Node} {other : Location}

theorem node?_insert (hplace : place ≠ []) (other : Location) :
    (tree.insert place node).node? other = if other = place then some node else tree.node? other := by
  cases other with
  | nil => rw [if_neg (Ne.symm hplace), node?, node?]
  | cons name rest => exact lookup_replace tree.entries place node (name :: rest)

/-- Nothing is at a location, or a file. -/
def HasRoom (tree : FileTree) (place : Location) (executable : Bool) : Prop :=
  tree.node? place = none ∨ ∃ content, tree.node? place = some (.file executable content)

theorem LeadsToFile.hasRoom (h : LeadsToFile tree way place executable) :
    HasRoom tree place executable := by
  cases h with
  | present hle hgoes hnode => exact .inr ⟨_, hnode⟩
  | absent hle hgoes hfinds => exact .inl hfinds.node?_eq

theorem HasRoom.ne_root (h : HasRoom tree place executable) : place ≠ [] := by
  rintro rfl
  rcases h with hnone | ⟨content, hfile⟩
  · cases hnone
  · cases hfile

/-- A file put where there is none or another takes the place of nothing else. -/
theorem HasRoom.node?_insert (h : HasRoom tree place executable) (hother : tree.node? other = some node) :
    (tree.insert place (.file executable content)).node? other = some node ∨
      ∃ before, node = .file executable before ∧
        (tree.insert place (.file executable content)).node? other =
          some (.file executable content) := by
  rw [FileTree.node?_insert h.ne_root]
  by_cases heq : other = place
  · rw [if_pos heq]
    rw [heq] at hother
    rcases h with hnone | ⟨before, hbefore⟩
    · rw [hnone] at hother
      cases hother
    · rw [hbefore] at hother
      exact .inr ⟨before, (Option.some.inj hother).symm, rfl⟩
  · rw [if_neg heq]
    exact .inl hother

theorem HasRoom.isDirectory_insert (h : HasRoom tree place executable)
    (hother : tree.isDirectory other = true) :
    (tree.insert place (.file executable content)).isDirectory other = true := by
  rcases h.node?_insert (isDirectory_iff.mp hother) with hsame | ⟨before, hfile, -⟩
  · exact isDirectory_iff.mpr hsame
  · cases hfile

/-- A walk is the same after a file has been put where there is none or another. -/
theorem HasRoom.goes_insert (hroom : HasRoom tree place executable)
    (h : Goes tree followed way next) :
    Goes (tree.insert place (.file executable content)) followed way next := by
  induction h with
  | refl way => exact .refl way
  | move hmove hgoes ih =>
    refine .move ?_ ih
    cases hmove with
    | stay hhere hstep => exact .stay (hroom.isDirectory_insert hhere) hstep
    | up hhere => exact .up (hroom.isDirectory_insert hhere)
    | down hfinds hnotLink =>
      rcases hroom.node?_insert hfinds.node?_eq with hsame | ⟨before, rfl, hfile⟩
      · exact .down ⟨hroom.isDirectory_insert hfinds.isDirectory, hfinds.size_le, hsame⟩ hnotLink
      · exact .down ⟨hroom.isDirectory_insert hfinds.isDirectory, hfinds.size_le, hfile⟩ nofun
    | link hfinds hpath =>
      rcases hroom.node?_insert hfinds.node?_eq with hsame | ⟨before, hfile, -⟩
      · exact .link ⟨hroom.isDirectory_insert hfinds.isDirectory, hfinds.size_le, hsame⟩ hpath
      · cases hfile

/-- What has been written is read by the same path. -/
theorem WritesTo.read_insert (h : WritesTo tree directory s place executable)
    (content : List UInt8) :
    (tree.insert place (.file executable content)).read directory s = .ok content := by
  obtain ⟨path, hpath, hsize, hleads⟩ := h
  have hroom := hleads.hasRoom
  have hnode : (tree.insert place (.file executable content)).node? place =
      some (.file executable content) := by
    rw [node?_insert hroom.ne_root, if_pos rfl]
  have hends : Ends (tree.insert place (.file executable content)) greatestLinkCount
      (path.way directory) (.ok place) := by
    cases hleads with
    | present hle hgoes hbefore => exact .arrives hle (hroom.goes_insert hgoes)
    | absent hle hgoes hfinds =>
      have hthere : Finds (tree.insert _ (.file false content)) _ _ _ :=
        ⟨hroom.isDirectory_insert hfinds.isDirectory, hfinds.size_le, hnode⟩
      have hdown := (hroom.goes_insert hgoes).trans (.single (.down hthere nofun))
      exact .arrives (by omega) hdown
  rw [read_eq_of_ends hpath hsize hends]
  show contentAt _ place = _
  rw [contentAt, hnode]

end RevisionControl.FileTree
