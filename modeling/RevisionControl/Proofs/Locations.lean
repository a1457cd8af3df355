import Mathlib.Data.List.Basic
import RevisionControl.FileTree.Walk

/-!
# Proofs: where walks end

A walk that finds something ends at a location that stands by itself (`Standing`): its names are
names that a path can spell, what is above it are directories, and it is no link. Each leg keeps
this, from where it starts to where it ends or meets a link. On the other hand the text of a
location that stands leads straight there, without a link on the way. So the locations found by
walks are those that are found again by their own texts (`Canonical`).
-/

namespace RevisionControl

/-! ## Fields -/

namespace Text

variable {separator : Char} {field cs : List Char}

theorem fields_ne_nil (separator : Char) (cs : List Char) : fields separator cs ≠ [] := by
  cases cs with
  | nil => exact List.cons_ne_nil _ _
  | cons c rest =>
    unfold fields
    split
    · exact List.cons_ne_nil _ _
    · split <;> exact List.cons_ne_nil _ _

theorem fields_of_not_mem (h : separator ∉ field) : fields separator field = [field] := by
  induction field with
  | nil => rfl
  | cons c field ih =>
    rw [List.mem_cons, not_or] at h
    rw [fields, if_neg (Ne.symm h.1), ih h.2]

theorem fields_append (h : separator ∉ field) (cs : List Char) :
    fields separator (field ++ separator :: cs) = field :: fields separator cs := by
  induction field with
  | nil => rw [List.nil_append, fields, if_pos rfl]
  | cons c field ih =>
    rw [List.mem_cons, not_or] at h
    rw [List.cons_append, fields, if_neg (Ne.symm h.1), ih h.2]

/-- A field has no separator, and nothing that the text does not have. -/
theorem of_mem_fields (h : field ∈ fields separator cs) :
    separator ∉ field ∧ ∀ c ∈ field, c ∈ cs := by
  induction cs generalizing field with
  | nil =>
    rw [List.mem_singleton.mp h]
    exact ⟨List.not_mem_nil, fun c hc => hc⟩
  | cons c rest ih =>
    rw [fields] at h
    split at h
    · rcases List.mem_cons.mp h with rfl | h
      · exact ⟨List.not_mem_nil, fun c hc => absurd hc List.not_mem_nil⟩
      · obtain ⟨hfield, hsub⟩ := ih h
        exact ⟨hfield, fun d hd => List.mem_cons_of_mem c (hsub d hd)⟩
    · rename_i hc
      obtain ⟨first, more, hfields⟩ := List.exists_cons_of_ne_nil (fields_ne_nil separator rest)
      rw [hfields] at h ih
      rcases List.mem_cons.mp h with rfl | h
      · obtain ⟨hfirst, hsub⟩ := ih List.mem_cons_self
        refine ⟨fun hmem => ?_, fun d hd => ?_⟩
        · rcases List.mem_cons.mp hmem with rfl | hmem
          · exact hc rfl
          · exact hfirst hmem
        · rcases List.mem_cons.mp hd with rfl | hd
          · exact List.mem_cons_self
          · exact List.mem_cons_of_mem c (hsub d hd)
      · obtain ⟨hfield, hsub⟩ := ih (List.mem_cons_of_mem first h)
        exact ⟨hfield, fun d hd => List.mem_cons_of_mem c (hsub d hd)⟩

end Text

namespace FileTree

open Host (Fault)

variable {tree : FileTree} {making : Bool} {location directory above : Location} {name s : String}
  {steps : List Step} {path : Path} {node : Node}

/-! ## Names -/

/-- A name that a path can spell. -/
structure ProperName (name : String) : Prop where
  ne_empty : name ≠ ""
  no_slash : '/' ∉ name.toList
  no_nul : '\x00' ∉ name.toList
  ne_here : name.toList ≠ ['.']
  ne_up : name.toList ≠ ['.', '.']

/-- A step to an entry has a proper name. -/
def Step.Proper : Step → Prop
  | entry name => ProperName name
  | _ => True

namespace Path

theorem stepOf_proper {field : List Char} (hne : field ≠ []) (hslash : '/' ∉ field)
    (hnul : '\x00' ∉ field) : (stepOf field).Proper := by
  unfold stepOf
  split
  · trivial
  · rename_i hhere
    split
    · trivial
    · rename_i hup
      refine ⟨fun h => hne (String.ofList_eq_empty_iff.mp h), ?_, ?_, ?_, ?_⟩ <;>
        rw [String.toList_ofList]
      · exact hslash
      · exact hnul
      · exact hhere
      · exact hup

theorem stepsOf_proper {fields : List (List Char)}
    (h : ∀ field ∈ fields, '/' ∉ field ∧ '\x00' ∉ field) :
    ∀ step ∈ stepsOf fields, step.Proper := by
  fun_induction stepsOf fields with
  | case1 => exact fun _ hmem => absurd hmem List.not_mem_nil
  | case2 last hlast =>
    intro step hmem
    rw [List.mem_singleton.mp hmem]
    trivial
  | case3 last hlast =>
    intro step hmem
    obtain ⟨hslash, hnul⟩ := h last List.mem_cons_self
    rw [List.mem_singleton.mp hmem]
    exact stepOf_proper (by simpa using hlast) hslash hnul
  | case4 field more hmore hfield ih =>
    exact ih fun other hother => h other (List.mem_cons_of_mem field hother)
  | case5 field more hmore hfield ih =>
    intro step hmem
    rcases List.mem_cons.mp hmem with rfl | hmem
    · obtain ⟨hslash, hnul⟩ := h field List.mem_cons_self
      exact stepOf_proper (by simpa using hfield) hslash hnul
    · exact ih (fun other hother => h other (List.mem_cons_of_mem field hother)) step hmem

theorem stepsOf_ne_nil {fields : List (List Char)} (h : fields ≠ []) : stepsOf fields ≠ [] := by
  fun_induction stepsOf fields with
  | case1 => exact absurd rfl h
  | case2 => exact List.cons_ne_nil _ _
  | case3 => exact List.cons_ne_nil _ _
  | case4 field more hmore hfield ih => exact ih hmore
  | case5 => exact List.cons_ne_nil _ _

/-- A path that a text says has a step, and proper names. -/
theorem of_parse? (h : parse? s = .ok path) :
    path.steps ≠ [] ∧ ∀ step ∈ path.steps, step.Proper := by
  have hfields : ∀ {cs : List Char}, '\x00' ∉ cs →
      stepsOf (Text.fields '/' cs) ≠ [] ∧
        ∀ step ∈ stepsOf (Text.fields '/' cs), step.Proper := by
    intro cs hcs
    refine ⟨stepsOf_ne_nil (Text.fields_ne_nil _ _), stepsOf_proper fun field hmem => ?_⟩
    obtain ⟨hslash, hsub⟩ := Text.of_mem_fields hmem
    exact ⟨hslash, fun hnul => hcs (hsub _ hnul)⟩
  unfold parse? at h
  split at h
  · cases h
  · rename_i c rest htext
    split at h
    · cases h
    · rename_i hnul
      split at h <;> cases h
      · exact hfields fun hmem => hnul (List.mem_cons_of_mem c hmem)
      · exact hfields hnul

end Path

/-! ## Locations that stand by themselves -/

/-- There is something at a location, and nothing has to be followed to get there. -/
structure Standing (tree : FileTree) (location : Location) : Prop where
  proper : ∀ name ∈ location, ProperName name
  size_le : ∀ name ∈ location, name.utf8ByteSize ≤ greatestNameSize
  isDirectory_above : ∀ above, above <+: location → above ≠ location →
    tree.isDirectory above = true
  no_link : ∃ node, tree.node? location = some node ∧ ∀ target, node ≠ .link target

theorem isDirectory_iff : tree.isDirectory location = true ↔ tree.node? location = some .directory :=
  beq_iff_eq

namespace Standing

theorem root (tree : FileTree) : Standing tree [] where
  proper _ hmem := absurd hmem List.not_mem_nil
  size_le _ hmem := absurd hmem List.not_mem_nil
  isDirectory_above _ habove hne := absurd (List.prefix_nil.mp habove) hne
  no_link := ⟨.directory, rfl, fun _ => nofun⟩

theorem of_prefix (h : Standing tree location) (habove : above <+: location) :
    Standing tree above := by
  by_cases heq : above = location
  · rw [heq]
    exact h
  · have hdirectory := h.isDirectory_above above habove heq
    refine ⟨fun name hmem => h.proper name (habove.subset hmem),
      fun name hmem => h.size_le name (habove.subset hmem), fun other hother hne => ?_,
      .directory, isDirectory_iff.mp hdirectory, fun _ => nofun⟩
    refine h.isDirectory_above other (hother.trans habove) fun hsame => hne ?_
    rw [hsame] at hother ⊢
    exact hother.eq_of_length_le habove.length_le

theorem isDirectory_of_prefix (h : Standing tree location)
    (hdirectory : tree.isDirectory location = true) (habove : above <+: location) :
    tree.isDirectory above = true := by
  by_cases heq : above = location
  · rw [heq]
    exact hdirectory
  · exact h.isDirectory_above above habove heq

theorem dropLast (h : Standing tree location) : Standing tree location.dropLast :=
  h.of_prefix (List.dropLast_prefix location)

theorem snoc (h : Standing tree directory) (hdirectory : tree.isDirectory directory = true)
    (hname : ProperName name) (hsize : name.utf8ByteSize ≤ greatestNameSize)
    (hnode : tree.node? (directory ++ [name]) = some node)
    (hlink : ∀ target, node ≠ .link target) : Standing tree (directory ++ [name]) where
  proper other hmem := by
    rcases List.mem_append.mp hmem with hmem | hmem
    · exact h.proper other hmem
    · rw [List.mem_singleton.mp hmem]
      exact hname
  size_le other hmem := by
    rcases List.mem_append.mp hmem with hmem | hmem
    · exact h.size_le other hmem
    · rw [List.mem_singleton.mp hmem]
      exact hsize
  isDirectory_above above habove hne := by
    rcases List.prefix_concat_iff.mp habove with heq | habove
    · exact absurd heq hne
    · exact h.isDirectory_of_prefix hdirectory habove
  no_link := ⟨node, hnode, hlink⟩

end Standing

/-! ## Walks -/

/-- What a leg that starts at a location that stands keeps. -/
def Leg.Keeps (tree : FileTree) : Leg → Prop
  | .arrived (.present location) => Standing tree location
  | .atLink directory _ rest => Standing tree directory ∧ ∀ step ∈ rest, step.Proper
  | _ => True

/-- By induction on the steps: every step leads from a location that stands to another. -/
theorem leg_keeps (hstart : Standing tree location) (hsteps : ∀ step ∈ steps, step.Proper) :
    (leg tree making location steps).Keeps tree := by
  induction steps generalizing location with
  | nil => exact hstart
  | cons step rest ih =>
    have hrest : ∀ step ∈ rest, step.Proper := fun other hmem =>
      hsteps other (List.mem_cons_of_mem step hmem)
    unfold leg
    split
    · trivial
    · rename_i hdirectory
      rw [Bool.not_eq_true, Bool.not_eq_false'] at hdirectory
      cases step with
      | here => exact ih hstart hrest
      | slash => exact ih hstart hrest
      | up => exact ih hstart.dropLast hrest
      | entry name =>
        have hname : ProperName name := hsteps _ List.mem_cons_self
        dsimp only
        split
        · trivial
        · split
          · trivial
          · rename_i hsize
            split
            · split <;> trivial
            · exact ⟨hstart, hrest⟩
            · rename_i node hlink hnode
              exact ih (hstart.snoc hdirectory hname (Nat.le_of_not_lt hsize) hnode hlink) hrest

/-- By induction on the links that may still be followed, a leg for each. -/
theorem walkWithin_standing {links : Nat} {place : Location} (hstart : Standing tree location)
    (hsteps : ∀ step ∈ steps, step.Proper)
    (h : walkWithin tree making links location steps = .ok (.present place)) :
    Standing tree place := by
  have hkeeps : (leg tree making location steps).Keeps tree := leg_keeps hstart hsteps
  fun_induction walkWithin tree making links location steps with
  | case1 links location steps arrival hleg =>
    cases h
    rw [hleg] at hkeeps
    exact hkeeps
  | case2 => cases h
  | case3 => cases h
  | case4 => cases h
  | case5 location steps directory target rest hleg links path hpath ih =>
    rw [hleg] at hkeeps
    obtain ⟨hdirectory, hrest⟩ := hkeeps
    have hproper := (Path.of_parse? hpath).2
    have hnext : Standing tree (if path.absolute then [] else directory) := by
      split
      · exact Standing.root tree
      · exact hdirectory
    have hsteps' : ∀ step ∈ path.steps ++ rest, step.Proper := fun step hmem =>
      (List.mem_append.mp hmem).elim (hproper step) (hrest step)
    exact ih hnext hsteps' h (leg_keeps hnext hsteps')

/-- A step leads from a directory only. -/
theorem isDirectory_of_walkWithin {links : Nat} {arrival : Arrival} (hsteps : steps ≠ [])
    (h : walkWithin tree making links location steps = .ok arrival) :
    tree.isDirectory location = true := by
  obtain ⟨step, rest, rfl⟩ := List.exists_cons_of_ne_nil hsteps
  by_contra hnot
  have hleg : ∃ fault, leg tree making location (step :: rest) = .refused fault := by
    unfold leg
    rw [if_pos (by simpa using hnot)]
    exact ⟨_, rfl⟩
  obtain ⟨fault, hleg⟩ := hleg
  unfold walkWithin at h
  rw [hleg] at h
  cases h

theorem resolve_eq_ok_iff {place : Location} : tree.resolve directory s = .ok place ↔
    ∃ path, Path.parse? s = .ok path ∧ tree.walk false directory path = .ok (.present place) := by
  unfold resolve
  cases Path.parse? s with
  | error fault => exact ⟨nofun, fun ⟨_, h, _⟩ => nomatch h⟩
  | ok path =>
    cases hwalk : tree.walk false directory path with
    | error fault =>
      refine ⟨fun h => ?_, ?_⟩
      · simp [bind, Except.bind, hwalk] at h
      · rintro ⟨_, ⟨⟩, h⟩
        rw [hwalk] at h
        cases h
    | ok arrival =>
      cases arrival with
      | present location =>
        simp [bind, Except.bind, hwalk, pure, Except.pure]
      | absent inner name =>
        simp [bind, Except.bind, hwalk]

/-- What a path leads to stands by itself, if the directory does from where the path starts. -/
theorem resolve_standing {place : Location}
    (hdirectory : tree.isDirectory directory = true → Standing tree directory)
    (h : tree.resolve directory s = .ok place) : Standing tree place := by
  obtain ⟨path, hpath, hwalk⟩ := resolve_eq_ok_iff.mp h
  obtain ⟨hne, hproper⟩ := Path.of_parse? hpath
  refine walkWithin_standing ?_ hproper hwalk
  have hstart := isDirectory_of_walkWithin hne hwalk
  cases habsolute : path.absolute with
  | true => exact Standing.root tree
  | false =>
    rw [habsolute] at hstart
    exact hdirectory hstart

/-! ## Texts of locations -/

theorem Location.toList_text (hne : location ≠ []) :
    (Location.text location).toList = location.flatMap fun name => '/' :: name.toList := by
  unfold Location.text
  split
  · exact absurd rfl hne
  · rw [String.toList_join, List.flatMap_map]
    refine List.flatMap_congr fun name _ => ?_
    rw [String.toList_append]
    rfl

/-- Between the slashes of its text are the names of a location. -/
theorem fields_text (hname : '/' ∉ name.toList) (h : ∀ other ∈ location, '/' ∉ other.toList) :
    Text.fields '/' (name.toList ++ location.flatMap fun name => '/' :: name.toList) =
      (name :: location).map String.toList := by
  induction location generalizing name with
  | nil =>
    rw [List.flatMap_nil, List.append_nil, Text.fields_of_not_mem hname]
    rfl
  | cons next location ih =>
    obtain ⟨hnext, hlocation⟩ := List.forall_mem_cons.mp h
    rw [List.flatMap_cons, List.cons_append, Text.fields_append hname, ih hnext hlocation]
    rfl

theorem ProperName.toList_ne_nil (h : ProperName name) : name.toList ≠ [] :=
  fun hnil => h.ne_empty (String.toList_eq_nil_iff.mp hnil)

theorem ProperName.stepOf_eq (h : ProperName name) : Path.stepOf name.toList = .entry name := by
  rw [Path.stepOf, if_neg h.ne_here, if_neg h.ne_up, String.ofList_toList]

theorem stepsOf_names (h : ∀ name ∈ location, ProperName name) :
    Path.stepsOf (location.map String.toList) = location.map .entry := by
  induction location with
  | nil => rfl
  | cons name location ih =>
    obtain ⟨hname, hlocation⟩ := List.forall_mem_cons.mp h
    have hempty : name.toList.isEmpty = false := List.isEmpty_eq_false_iff.mpr hname.toList_ne_nil
    cases location with
    | nil => simp [Path.stepsOf, hempty, hname.stepOf_eq]
    | cons next location =>
      rw [List.map_cons, List.map_cons, Path.stepsOf, hempty, hname.stepOf_eq, ← List.map_cons,
        ih hlocation]
      · rfl
      · exact fun hnil => nomatch hnil

theorem parse?_text (hne : location ≠ []) (h : ∀ name ∈ location, ProperName name) :
    Path.parse? location.text = .ok ⟨true, location.map .entry⟩ := by
  obtain ⟨name, rest, rfl⟩ := List.exists_cons_of_ne_nil hne
  have hproper := List.forall_mem_cons.mp h
  have hnul : '\x00' ∉ (Location.text (name :: rest)).toList := by
    rw [Location.toList_text hne, List.mem_flatMap]
    rintro ⟨other, hmem, hnul⟩
    rcases List.mem_cons.mp hnul with heq | hnul
    · exact absurd heq (by decide)
    · exact (h other hmem).no_nul hnul
  have hfields := fields_text hproper.1.no_slash fun other hmem => (hproper.2 other hmem).no_slash
  rw [Location.toList_text hne, List.flatMap_cons, List.cons_append] at hnul
  unfold Path.parse?
  rw [Location.toList_text hne, List.flatMap_cons, List.cons_append]
  dsimp only
  rw [if_neg hnul, if_pos rfl, hfields, stepsOf_names h]

/-- Names lead downwards, one after the other. -/
theorem leg_entries {later : Location} (h : Standing tree (location ++ later)) :
    leg tree false location (later.map .entry) = .arrived (.present (location ++ later)) := by
  induction later generalizing location with
  | nil =>
    rw [List.append_nil]
    rfl
  | cons name later ih =>
    have hsplit : location ++ name :: later = location ++ [name] ++ later := by simp
    rw [hsplit] at h ⊢
    have hmem : name ∈ location ++ [name] ++ later := by simp
    have hdirectory : tree.isDirectory location = true :=
      h.isDirectory_above location ⟨[name] ++ later, by simp⟩ (by simp)
    obtain ⟨node, hnode, hlink⟩ := (h.of_prefix (List.prefix_append _ later)).no_link
    rw [List.map_cons]
    unfold leg
    rw [if_neg (by simp [hdirectory]), ← ih h]
    dsimp only
    rw [if_neg (by simp), if_neg (Nat.not_lt.mpr (h.size_le name hmem)), hnode]
    split
    · rename_i hnone
      cases hnone
    · rename_i target hsome
      exact absurd (Option.some.inj hsome) (hlink target)
    · rfl

theorem Standing.resolve_text (h : Standing tree location) (directory : Location) :
    tree.resolve directory location.text = .ok location := by
  rw [resolve_eq_ok_iff]
  by_cases hne : location = []
  · subst hne
    refine ⟨⟨true, [.slash]⟩, rfl, rfl⟩
  · refine ⟨_, parse?_text hne h.proper, ?_⟩
    have hdown : Standing tree ([] ++ location) := h
    have hleg := leg_entries hdown
    rw [List.nil_append] at hleg
    unfold walk walkWithin
    dsimp only
    rw [if_pos rfl, hleg]

/-- A location to which its own text leads, from anywhere. -/
def Canonical (tree : FileTree) (location : Location) : Prop :=
  ∀ directory, tree.resolve directory location.text = .ok location

theorem canonical_iff : Canonical tree location ↔ Standing tree location := by
  constructor
  · intro h
    exact resolve_standing (fun _ => Standing.root tree) (h [])
  · exact fun h directory => h.resolve_text directory

end FileTree

end RevisionControl
