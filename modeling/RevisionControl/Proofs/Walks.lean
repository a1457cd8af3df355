import RevisionControl.FileTree.Content
import RevisionControl.Proofs.Locations

/-!
# Proofs: walks step by step

A walk is under way at some place with steps ahead (`Way`). It makes one move after the other
(`Move`, `Goes`), each along a step or through a link, until no step is ahead, it has to stop
(`Stop`), or it would follow one link too many. How many links it has followed is all that it
remembers, so that walks can be put together from parts. `Ends` says how a walk ends in these terms,
and a path is resolved just so.
-/

namespace RevisionControl.FileTree

open Host (Fault)

/-- A walk under way. -/
structure Way where
  /-- The place it has come to. -/
  place : Location
  /-- The steps ahead. -/
  steps : List Step

/-- A way with more steps behind those ahead. -/
def Way.append (way : Way) (more : List Step) : Way := ⟨way.place, way.steps ++ more⟩

/-- The way along a path. -/
def Path.way (directory : Location) (path : Path) : Way :=
  ⟨if path.absolute then [] else directory, path.steps⟩

/-! ## Moves -/

/-- What is found when an entry of a directory is looked up. -/
structure Finds (tree : FileTree) (directory : Location) (name : String)
    (found : Option Node) : Prop where
  isDirectory : tree.isDirectory directory = true
  size_le : name.utf8ByteSize ≤ greatestNameSize
  node?_eq : tree.node? (directory ++ [name]) = found

/-- A move of a walk, with the number of links followed in it. -/
inductive Move (tree : FileTree) : Nat → Way → Way → Prop where
  | stay {place : Location} {step : Step} {rest : List Step}
      (hdirectory : tree.isDirectory place = true) (hstep : step = .here ∨ step = .slash) :
      Move tree 0 ⟨place, step :: rest⟩ ⟨place, rest⟩
  | up {place : Location} {rest : List Step} (hdirectory : tree.isDirectory place = true) :
      Move tree 0 ⟨place, .up :: rest⟩ ⟨place.dropLast, rest⟩
  | down {place : Location} {name : String} {node : Node} {rest : List Step}
      (hfinds : Finds tree place name (some node)) (hnode : ∀ target, node ≠ .link target) :
      Move tree 0 ⟨place, .entry name :: rest⟩ ⟨place ++ [name], rest⟩
  | link {place : Location} {name target : String} {path : Path} {rest : List Step}
      (hfinds : Finds tree place name (some (.link target)))
      (hpath : Path.parse? target = .ok path) :
      Move tree 1 ⟨place, .entry name :: rest⟩ ((path.way place).append rest)

/-- Some moves of a walk, with the number of links followed in them. -/
inductive Goes (tree : FileTree) : Nat → Way → Way → Prop where
  | refl (way : Way) : Goes tree 0 way way
  | move {way next last : Way} {first more : Nat} (hmove : Move tree first way next)
      (hgoes : Goes tree more next last) : Goes tree (more + first) way last

/-- A walk that cannot go on, and why. -/
inductive Stop (tree : FileTree) : Way → Fault → Prop where
  | missing {place : Location} {name : String} {rest : List Step}
      (hfinds : Finds tree place name none) : Stop tree ⟨place, .entry name :: rest⟩ .notFound
  | tooLong {place : Location} {name : String} {rest : List Step}
      (hdirectory : tree.isDirectory place = true) (hsize : greatestNameSize < name.utf8ByteSize) :
      Stop tree ⟨place, .entry name :: rest⟩ .nameTooLong
  | gone {place : Location} {step : Step} {rest : List Step} (hnode : tree.node? place = none) :
      Stop tree ⟨place, step :: rest⟩ .notFound
  | notDirectory {place : Location} {step : Step} {node : Node} {rest : List Step}
      (hnode : tree.node? place = some node) (hne : node ≠ .directory) :
      Stop tree ⟨place, step :: rest⟩ .notADirectory

/-- How a walk ends that follows at most `links` links. -/
inductive Ends (tree : FileTree) (links : Nat) (way : Way) : Except Fault Location → Prop where
  -- A link counts before it is looked where it leads: hence the two conditions on `followed`.
  | arrives {followed : Nat} {place : Location} (hle : followed ≤ links)
      (hgoes : Goes tree followed way ⟨place, []⟩) : Ends tree links way (.ok place)
  | stops {followed : Nat} {next : Way} {fault : Fault} (hle : followed ≤ links)
      (hgoes : Goes tree followed way next) (hstop : Stop tree next fault) :
      Ends tree links way (.error fault)
  | leadsNowhere {followed : Nat} {place : Location} {name target : String} {rest : List Step}
      {fault : Fault} (hlt : followed < links)
      (hgoes : Goes tree followed way ⟨place, .entry name :: rest⟩)
      (hfinds : Finds tree place name (some (.link target)))
      (hpath : Path.parse? target = .error fault) : Ends tree links way (.error fault)
  | tooManyLinks {place : Location} {name target : String} {rest : List Step}
      (hgoes : Goes tree links way ⟨place, .entry name :: rest⟩)
      (hfinds : Finds tree place name (some (.link target))) :
      Ends tree links way (.error .linkLoop)

variable {tree other : FileTree} {making : Bool} {place directory : Location} {way next last : Way}
  {name s : String} {steps rest more : List Step} {links followed : Nat} {fault : Fault}

/-! ## Putting walks together -/

theorem Goes.single (h : Move tree followed way next) : Goes tree followed way next := by
  rw [← Nat.zero_add followed]
  exact .move h (.refl next)

theorem Goes.trans {before after : Nat} (h : Goes tree before way next)
    (hmore : Goes tree after next last) : Goes tree (after + before) way last := by
  induction h with
  | refl way => exact hmore
  | move hmove _ ih =>
    rw [← Nat.add_assoc]
    exact .move hmove (ih hmore)

theorem Way.append_append (way : Way) (steps more : List Step) :
    (way.append steps).append more = way.append (steps ++ more) := by
  unfold Way.append
  rw [List.append_assoc]

/-- What comes behind the steps ahead does not matter to a move. -/
theorem Move.append (h : Move tree followed way next) (more : List Step) :
    Move tree followed (way.append more) (next.append more) := by
  cases h with
  | stay hdirectory hstep => exact .stay hdirectory hstep
  | up hdirectory => exact .up hdirectory
  | down hfinds hnode => exact .down hfinds hnode
  | link hfinds hpath =>
    rw [Way.append_append]
    exact .link hfinds hpath

theorem Goes.append (h : Goes tree followed way next) (more : List Step) :
    Goes tree followed (way.append more) (next.append more) := by
  induction h with
  | refl way => exact .refl _
  | move hmove _ ih => exact .move (hmove.append more) ih

theorem Stop.append (h : Stop tree way fault) (more : List Step) :
    Stop tree (way.append more) fault := by
  cases h with
  | missing hfinds => exact .missing hfinds
  | tooLong hdirectory hsize => exact .tooLong hdirectory hsize
  | gone hnode => exact .gone hnode
  | notDirectory hnode hne => exact .notDirectory hnode hne

/-- A walk that comes back to where it was, with a link on the way, goes round for ever. -/
theorem Goes.round (h : Goes tree followed way (way.append more)) (hpos : 0 < followed)
    (links : Nat) : ∃ rounds last, links ≤ rounds ∧ Goes tree rounds way last := by
  induction links with
  | zero => exact ⟨0, way, Nat.le_refl 0, .refl way⟩
  | succ links ih =>
    obtain ⟨rounds, last, hle, hgoes⟩ := ih
    exact ⟨rounds + followed, last.append more, by omega, h.trans (hgoes.append more)⟩

/-! ## How walks end -/

theorem Move.leg_eq (h : Move tree 0 way next) :
    leg tree false way.place way.steps = leg tree false next.place next.steps := by
  cases h with
  | stay hdirectory hstep =>
    rcases hstep with rfl | rfl <;> simp [leg, hdirectory]
  | up hdirectory => simp [leg, hdirectory]
  | @down place name node rest hfinds hnode =>
    have hsize := Nat.not_lt.mpr hfinds.size_le
    show leg tree false place (.entry name :: rest) = leg tree false (place ++ [name]) rest
    rw [leg]
    cases node with
    | link target => exact absurd rfl (hnode target)
    | directory => simp [hfinds.isDirectory, hsize, hfinds.node?_eq]
    | file => simp [hfinds.isDirectory, hsize, hfinds.node?_eq]

theorem Finds.leg_eq {target : String} (h : Finds tree place name (some (.link target))) :
    leg tree false place (.entry name :: rest) = .atLink place target rest := by
  simp [leg, h.isDirectory, Nat.not_lt.mpr h.size_le, h.node?_eq]

theorem walkWithin_of_leg_eq
    (h : leg tree false way.place way.steps = leg tree false next.place next.steps) (links : Nat) :
    walkWithin tree false links way.place way.steps =
      walkWithin tree false links next.place next.steps := by
  rw [walkWithin, h, walkWithin]

/-- A move takes its links from those that may be followed, and changes nothing else about the end
of a walk. -/
theorem Move.walkWithin_eq (h : Move tree followed way next) (links : Nat) :
    walkWithin tree false (links + followed) way.place way.steps =
      walkWithin tree false links next.place next.steps := by
  cases h with
  | stay hdirectory hstep => exact walkWithin_of_leg_eq (Move.stay hdirectory hstep).leg_eq links
  | up hdirectory => exact walkWithin_of_leg_eq (Move.up hdirectory).leg_eq links
  | down hfinds hnode => exact walkWithin_of_leg_eq (Move.down hfinds hnode).leg_eq links
  | link hfinds hpath =>
    rw [walkWithin, hfinds.leg_eq]
    simp only [hpath]
    rfl

theorem Goes.walkWithin_eq (h : Goes tree followed way next) (links : Nat) :
    walkWithin tree false (links + followed) way.place way.steps =
      walkWithin tree false links next.place next.steps := by
  induction h with
  | refl way => rfl
  | move hmove _ ih => rw [← Nat.add_assoc, hmove.walkWithin_eq, ih]

theorem Goes.walkWithin_of_le (h : Goes tree followed way next) (hle : followed ≤ links) :
    walkWithin tree false links way.place way.steps =
      walkWithin tree false (links - followed) next.place next.steps := by
  rw [← h.walkWithin_eq, Nat.sub_add_cancel hle]

/-- The location where a walk ends. -/
def locationOf : Except Fault Arrival → Except Fault Location
  | .ok (.present location) => .ok location
  | .ok (.absent _ _) => .error .notFound
  | .error fault => .error fault

/-- A walk that cannot go on ends at once; where only its last entry is missing, there. -/
theorem Stop.walkWithin_cases (h : Stop tree way fault) (links : Nat) :
    walkWithin tree false links way.place way.steps = .error fault ∨
      ∃ directory name, way = ⟨directory, [.entry name]⟩ ∧ Finds tree directory name none ∧
        fault = .notFound ∧
        walkWithin tree false links way.place way.steps = .ok (.absent directory name) := by
  cases h with
  | @missing place name rest hfinds =>
    have hsize := Nat.not_lt.mpr hfinds.size_le
    cases rest with
    | nil =>
      refine .inr ⟨place, name, rfl, hfinds, rfl, ?_⟩
      simp [walkWithin, leg, hfinds.isDirectory, hsize, hfinds.node?_eq]
    | cons step rest =>
      exact .inl (by simp [walkWithin, leg, hfinds.isDirectory, hsize, hfinds.node?_eq])
  | tooLong hdirectory hsize => exact .inl (by simp [walkWithin, leg, hdirectory, hsize])
  | gone hnode => exact .inl (by simp [walkWithin, leg, isDirectory, hnode])
  | notDirectory hnode hne => exact .inl (by simp [walkWithin, leg, isDirectory, hnode, hne])

theorem Stop.locationOf_eq (h : Stop tree way fault) (links : Nat) :
    locationOf (walkWithin tree false links way.place way.steps) = .error fault := by
  rcases h.walkWithin_cases links with hwalk | ⟨directory, name, -, -, rfl, hwalk⟩
  · rw [hwalk]
    rfl
  · rw [hwalk]
    rfl

theorem Ends.locationOf_eq {result : Except Fault Location} (h : Ends tree links way result) :
    locationOf (walkWithin tree false links way.place way.steps) = result := by
  cases h with
  | arrives hle hgoes =>
    rw [hgoes.walkWithin_of_le hle, walkWithin, leg]
    rfl
  | stops hle hgoes hstop => rw [hgoes.walkWithin_of_le hle, hstop.locationOf_eq]
  | leadsNowhere hlt hgoes hfinds hpath =>
    obtain ⟨left, hleft⟩ := Nat.exists_eq_succ_of_ne_zero (Nat.sub_ne_zero_of_lt hlt)
    rw [hgoes.walkWithin_of_le (Nat.le_of_lt hlt), hleft, walkWithin, hfinds.leg_eq]
    simp only [hpath, locationOf]
  | tooManyLinks hgoes hfinds =>
    rw [hgoes.walkWithin_of_le (Nat.le_refl _), Nat.sub_self, walkWithin, hfinds.leg_eq]
    rfl

/-! ## Every walk ends -/

/-- What a leg says about the way that it starts on. -/
def Leg.Tells (tree : FileTree) (way : Way) : Leg → Prop
  | .arrived (.present location) => Goes tree 0 way ⟨location, []⟩
  | .arrived (.absent directory name) =>
    Goes tree 0 way ⟨directory, [.entry name]⟩ ∧ Finds tree directory name none
  | .atLink directory target rest =>
    ∃ name, Goes tree 0 way ⟨directory, .entry name :: rest⟩ ∧
      Finds tree directory name (some (.link target))
  | .refused fault => ∃ next, Goes tree 0 way next ∧ Stop tree next fault

theorem Leg.Tells.of_move {leg : Leg} (hmove : Move tree 0 way next) (h : leg.Tells tree next) :
    leg.Tells tree way := by
  have hgoes : ∀ {last}, Goes tree 0 next last → Goes tree 0 way last := fun hgoes =>
    .move hmove hgoes
  cases leg with
  | arrived arrival =>
    cases arrival with
    | present location => exact hgoes h
    | absent directory name => exact ⟨hgoes h.1, h.2⟩
  | atLink directory target rest =>
    obtain ⟨name, hrest, hfinds⟩ := h
    exact ⟨name, hgoes hrest, hfinds⟩
  | refused fault =>
    obtain ⟨last, hrest, hstop⟩ := h
    exact ⟨last, hgoes hrest, hstop⟩

/-- By induction on the steps: each is a move, or the leg ends at it. -/
theorem leg_tells (tree : FileTree) (place : Location) (steps : List Step) :
    (leg tree false place steps).Tells tree ⟨place, steps⟩ := by
  induction steps generalizing place with
  | nil => exact .refl _
  | cons step rest ih =>
    unfold leg
    split
    · next hdirectory =>
      refine ⟨_, .refl _, ?_⟩
      cases hnode : tree.node? place with
      | none => exact .gone hnode
      | some node =>
        refine .notDirectory hnode fun heq => ?_
        simp [isDirectory, hnode, heq] at hdirectory
    · next hdirectory =>
      have hdirectory : tree.isDirectory place = true := by simpa using hdirectory
      cases step with
      | here => exact (ih place).of_move (.stay hdirectory (.inl rfl))
      | slash => exact (ih place).of_move (.stay hdirectory (.inr rfl))
      | up => exact (ih place.dropLast).of_move (.up hdirectory)
      | entry name =>
        dsimp only
        rw [if_neg (by simp)]
        split
        · next hsize => exact ⟨_, .refl _, .tooLong hdirectory hsize⟩
        · next hsize =>
          have hsize := Nat.le_of_not_lt hsize
          split
          · next hnode =>
            have hfinds : Finds tree place name none := ⟨hdirectory, hsize, hnode⟩
            split
            · next hrest =>
              rw [List.isEmpty_iff.mp hrest]
              exact ⟨.refl _, hfinds⟩
            · exact ⟨_, .refl _, .missing hfinds⟩
          · next target hnode => exact ⟨name, .refl _, hdirectory, hsize, hnode⟩
          · next node hlink hnode =>
            refine (ih (place ++ [name])).of_move (.down ⟨hdirectory, hsize, hnode⟩ ?_)
            intro target heq
            exact hlink target (by rw [heq])

/-- The end of a walk is unaffected by what has been gone before. -/
theorem Ends.of_goes {result : Except Fault Location} (hgoes : Goes tree followed way next)
    (h : Ends tree links next result) : Ends tree (links + followed) way result := by
  cases h with
  | arrives hle hrest => exact .arrives (by omega) (hgoes.trans hrest)
  | stops hle hrest hstop => exact .stops (by omega) (hgoes.trans hrest) hstop
  | leadsNowhere hlt hrest hfinds hpath =>
    exact .leadsNowhere (by omega) (hgoes.trans hrest) hfinds hpath
  | tooManyLinks hrest hfinds => exact .tooManyLinks (hgoes.trans hrest) hfinds

/-- A walk that could follow too many links is ended at the last one that it may follow. -/
theorem Goes.ends_linkLoop (h : Goes tree followed way next) (hlt : links < followed) :
    Ends tree links way (.error .linkLoop) := by
  induction h generalizing links with
  | refl way => exact absurd hlt (Nat.not_lt_zero links)
  | move hmove hgoes ih =>
    cases hmove with
    | stay hdirectory hstep => exact (ih hlt).of_goes (.single (.stay hdirectory hstep))
    | up hdirectory => exact (ih hlt).of_goes (.single (.up hdirectory))
    | down hfinds hnode => exact (ih hlt).of_goes (.single (.down hfinds hnode))
    | link hfinds hpath =>
      cases links with
      | zero => exact .tooManyLinks (.refl _) hfinds
      | succ links =>
        exact (ih (Nat.lt_of_succ_lt_succ hlt)).of_goes (.single (.link hfinds hpath))

/-- A walk ends before it follows a link, or comes to one. -/
theorem ends_or_link (tree : FileTree) (way : Way) :
    (∃ result, ∀ links, Ends tree links way result) ∨
      ∃ directory name target rest, Goes tree 0 way ⟨directory, .entry name :: rest⟩ ∧
        Finds tree directory name (some (.link target)) := by
  have htells := leg_tells tree way.place way.steps
  cases hleg : leg tree false way.place way.steps with
  | arrived arrival =>
    rw [hleg] at htells
    cases arrival with
    | present location => exact .inl ⟨_, fun links => .arrives (Nat.zero_le links) htells⟩
    | absent directory name =>
      exact .inl ⟨_, fun links => .stops (Nat.zero_le links) htells.1 (.missing htells.2)⟩
  | refused fault =>
    rw [hleg] at htells
    obtain ⟨last, hgoes, hstop⟩ := htells
    exact .inl ⟨_, fun links => .stops (Nat.zero_le links) hgoes hstop⟩
  | atLink directory target rest =>
    rw [hleg] at htells
    obtain ⟨name, hgoes, hfinds⟩ := htells
    exact .inr ⟨directory, name, target, rest, hgoes, hfinds⟩

/-- By induction on the links that may still be followed. -/
theorem exists_ends (tree : FileTree) (links : Nat) (way : Way) :
    ∃ result, Ends tree links way result := by
  induction links generalizing way with
  | zero =>
    rcases ends_or_link tree way with ⟨result, hends⟩ | ⟨_, _, _, _, hgoes, hfinds⟩
    · exact ⟨result, hends 0⟩
    · exact ⟨_, .tooManyLinks hgoes hfinds⟩
  | succ links ih =>
    rcases ends_or_link tree way with ⟨result, hends⟩ | ⟨directory, name, target, rest, hgoes, hfinds⟩
    · exact ⟨result, hends (links + 1)⟩
    · cases hpath : Path.parse? target with
      | error fault => exact ⟨_, .leadsNowhere (Nat.succ_pos links) hgoes hfinds hpath⟩
      | ok path =>
        obtain ⟨result, hends⟩ := ih ((path.way directory).append rest)
        exact ⟨result, .of_goes (hgoes.trans (.single (.link hfinds hpath))) hends⟩

/-- How a walk ends is what `walkWithin` comes to. -/
theorem ends_iff {result : Except Fault Location} : Ends tree links way result ↔
    locationOf (walkWithin tree false links way.place way.steps) = result := by
  refine ⟨Ends.locationOf_eq, fun h => ?_⟩
  obtain ⟨found, hends⟩ := exists_ends tree links way
  rw [← h, hends.locationOf_eq]
  exact hends

theorem walkWithin_eq_present_iff :
    walkWithin tree false links way.place way.steps = .ok (.present place) ↔
      ∃ followed ≤ links, Goes tree followed way ⟨place, []⟩ := by
  constructor
  · intro h
    have hends : Ends tree links way (.ok place) := by
      rw [ends_iff, h]
      rfl
    cases hends with
    | arrives hle hgoes => exact ⟨_, hle, hgoes⟩
  · rintro ⟨followed, hle, hgoes⟩
    rw [hgoes.walkWithin_of_le hle, walkWithin, leg]

theorem walkWithin_eq_absent_iff :
    walkWithin tree false links way.place way.steps = .ok (.absent directory name) ↔
      ∃ followed ≤ links, Goes tree followed way ⟨directory, [.entry name]⟩ ∧
        Finds tree directory name none := by
  constructor
  · intro h
    have hends : Ends tree links way (.error .notFound) := by
      rw [ends_iff, h]
      rfl
    cases hends with
    | @stops followed next _ hle hgoes hstop =>
      rw [hgoes.walkWithin_of_le hle] at h
      rcases hstop.walkWithin_cases (links - followed) with
        hnext | ⟨directory, name, rfl, hfinds, -, hnext⟩
      · rw [hnext] at h
        cases h
      · rw [hnext] at h
        cases h
        exact ⟨followed, hle, hgoes, hfinds⟩
    | leadsNowhere hlt hgoes hfinds hpath =>
      obtain ⟨left, hleft⟩ := Nat.exists_eq_succ_of_ne_zero (Nat.sub_ne_zero_of_lt hlt)
      rw [hgoes.walkWithin_of_le (Nat.le_of_lt hlt), hleft, walkWithin, hfinds.leg_eq] at h
      simp [hpath] at h
  · rintro ⟨followed, hle, hgoes, hfinds⟩
    rw [hgoes.walkWithin_of_le hle]
    simp [walkWithin, leg, hfinds.isDirectory, Nat.not_lt.mpr hfinds.size_le, hfinds.node?_eq]

/-- A path is resolved by a walk along it. -/
theorem resolve_eq_iff {path : Path} {result : Except Fault Location}
    (hpath : Path.parse? s = .ok path) : tree.resolve directory s = result ↔
      Ends tree greatestLinkCount (path.way directory) result := by
  have hresolve : tree.resolve directory s = locationOf (tree.walk false directory path) := by
    rw [resolve, hpath]
    rcases hwalk : tree.walk false directory path with fault | arrival
    · simp only [bind, Except.bind, hwalk, locationOf]
    · cases arrival <;> simp only [bind, Except.bind, hwalk, locationOf, pure, Except.pure]
  rw [ends_iff, hresolve]
  rfl

/-! ## Reading -/

/-- What is read at a location. -/
def contentAt (tree : FileTree) (location : Location) : Except Fault (List UInt8) :=
  match tree.node? location with
  | some (.file _ content) => .ok content
  | some .directory => .error .isADirectory
  | _ => .error .notFound

theorem checkedPath_eq_ok_iff {path : Path} : checkedPath s = .ok path ↔
    Path.parse? s = .ok path ∧ s.utf8ByteSize ≤ greatestPathSize := by
  unfold checkedPath
  cases Path.parse? s with
  | error fault => exact ⟨nofun, fun h => nomatch h.1⟩
  | ok parsed =>
    show (if greatestPathSize < s.utf8ByteSize then _ else _) = _ ↔ _
    by_cases hsize : greatestPathSize < s.utf8ByteSize
    · simp [hsize]
    · simp [hsize, Nat.le_of_not_lt hsize, pure, Except.pure]

/-- A file is read where the walk along its path ends. -/
theorem read_eq_of_ends {path : Path} {result : Except Fault Location}
    (hpath : Path.parse? s = .ok path) (hsize : s.utf8ByteSize ≤ greatestPathSize)
    (h : Ends tree greatestLinkCount (path.way directory) result) :
    tree.read directory s = result >>= tree.contentAt := by
  have hreach : tree.reach directory s = result := by
    rw [reach, checkedPath_eq_ok_iff.mpr ⟨hpath, hsize⟩]
    exact (resolve_eq_iff hpath).mpr h
  rw [read, hreach]
  rfl

/-- The text that some bytes are. -/
def textOf (bytes : List UInt8) : Except Fault String :=
  (Text.Utf8.decode? bytes).mapError fun _ => .notText

theorem readText_eq {content : Except Fault (List UInt8)} (h : tree.read directory s = content) :
    tree.readText directory s = content >>= textOf := by
  rw [readText, h]
  cases content with
  | error fault => rfl
  | ok bytes =>
    simp only [bind, Except.bind, textOf]
    cases Text.Utf8.decode? bytes <;> rfl

end RevisionControl.FileTree
