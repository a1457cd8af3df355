import RevisionControl.Proofs.Walks

/-!
# Proofs: the way into a directory

A name behind the path of a directory makes the path of an entry: one step more on the way into the
directory (`wayInto`), however the slashes at the end of the path are written.
-/

namespace RevisionControl

namespace Text

theorem fields_append_separator (separator : Char) (cs ds : List Char) :
    fields separator (cs ++ separator :: ds) =
      fields separator cs ++ fields separator ds := by
  induction cs with
  | nil => simp [fields]
  | cons c cs ih =>
    rw [List.cons_append, fields, fields, ih]
    obtain ⟨field, more, hfields⟩ := List.exists_cons_of_ne_nil (fields_ne_nil separator cs)
    rw [hfields]
    split <;> rfl

end Text

namespace FileTree

open Host (Fault)

variable {directory : Location} {way : Way} {name s : String}

/-! ## Steps -/

namespace Path

/-- The steps that some fields say, apart from what a slash at the end adds. -/
def namedSteps (fields : List (List Char)) : List Step :=
  (fields.filter fun field => !field.isEmpty).map stepOf

theorem stepsOf_snoc (fields : List (List Char)) (field : List Char) :
    stepsOf (fields ++ [field]) =
      namedSteps fields ++ if field.isEmpty then [.slash] else [stepOf field] := by
  induction fields with
  | nil => rfl
  | cons first fields ih =>
    have hne : fields ++ [field] ≠ [] := by simp
    rw [List.cons_append, stepsOf, ih]
    · cases hfirst : first.isEmpty <;> simp [namedSteps, hfirst]
    · exact hne

theorem stepOf_ne_slash (field : List Char) : stepOf field ≠ .slash := by
  unfold stepOf
  split
  · nofun
  · split <;> nofun

/-- Without the slash at their end, all steps are due to fields that are not empty. -/
theorem filter_stepsOf (fields : List (List Char)) :
    ((stepsOf fields).filter fun step => step ≠ .slash) = namedSteps fields := by
  have hnamed : ∀ fields, ((namedSteps fields).filter fun step => step ≠ .slash) =
      namedSteps fields := by
    intro fields
    refine List.filter_eq_self.mpr fun step hstep => ?_
    obtain ⟨field, -, rfl⟩ := List.mem_map.mp hstep
    exact decide_eq_true (stepOf_ne_slash field)
  rcases List.eq_nil_or_concat fields with rfl | ⟨fields, field, rfl⟩
  · rfl
  · rw [List.concat_eq_append, stepsOf_snoc, List.filter_append, hnamed]
    cases hfield : field.isEmpty with
    | true => simp [namedSteps, hfield]
    | false => simp [namedSteps, hfield, stepOf_ne_slash]

end Path

/-- What stands between a text and a name behind it: a slash, unless there is one or no text. -/
def separatorAfter (cs : List Char) : List Char :=
  if cs = [] ∨ cs.getLast? = some '/' then [] else ['/']

theorem separatorAfter_slash (cs : List Char) : separatorAfter ('/' :: cs) = separatorAfter cs := by
  unfold separatorAfter
  cases cs with
  | nil => rfl
  | cons c cs => simp [List.getLast?_cons_cons]

namespace ProperName

theorem toList_join (h : ProperName name) (s : String) :
    (Path.join s name).toList = s.toList ++ separatorAfter s.toList ++ name.toList := by
  have hhead : name.toList.head? ≠ some '/' := fun hslash =>
    h.no_slash (List.mem_of_head? hslash)
  unfold Path.join separatorAfter
  rw [if_neg hhead]
  split
  · next hlast => simp [List.getLast?_eq_none_iff.mp hlast]
  · next hlast => simp [hlast]
  · next c hc hlast =>
    have hne : s.toList ≠ [] := fun hnil => by simp [hnil] at hlast
    have hslash : c ≠ '/' := hc
    simp [hlast, hne, hslash]

/-- A name behind some others is one more step. -/
theorem stepsOf_join (h : ProperName name) (cs : List Char) :
    Path.stepsOf (Text.fields '/' (cs ++ separatorAfter cs ++ name.toList)) =
      Path.namedSteps (Text.fields '/' cs) ++ [.entry name] := by
  have hempty : name.toList.isEmpty = false := List.isEmpty_eq_false_iff.mpr h.toList_ne_nil
  have hslash : ∀ before, Path.stepsOf (Text.fields '/' (before ++ '/' :: name.toList)) =
      Path.namedSteps (Text.fields '/' before) ++ [.entry name] := by
    intro before
    rw [Text.fields_append_separator, Text.fields_of_not_mem h.no_slash, Path.stepsOf_snoc, hempty,
      h.stepOf_eq]
    rfl
  unfold separatorAfter
  split
  · next hcs =>
    rw [List.append_nil]
    rcases hcs with rfl | hlast
    · rw [List.nil_append, Text.fields_of_not_mem h.no_slash, Path.stepsOf, hempty, h.stepOf_eq]
      rfl
    · obtain ⟨before, rfl⟩ := List.getLast?_eq_some_iff.mp hlast
      rw [List.append_assoc, List.singleton_append, hslash, Text.fields_append_separator]
      simp [Path.namedSteps, Text.fields]
  · rw [List.append_assoc, List.singleton_append, hslash]

/-- The same where the text starts with a slash, which is no part of a step. -/
theorem stepsOf_join_cons (h : ProperName name) (c : Char) (cs : List Char) :
    Path.stepsOf (Text.fields '/' (if c = '/' then cs ++ separatorAfter (c :: cs) ++ name.toList
      else c :: (cs ++ separatorAfter (c :: cs) ++ name.toList))) =
      Path.namedSteps (Text.fields '/' (if c = '/' then cs else c :: cs)) ++ [.entry name] := by
  by_cases hc : c = '/'
  · rw [if_pos hc, if_pos hc, hc, separatorAfter_slash, h.stepsOf_join]
  · rw [if_neg hc, if_neg hc, ← List.cons_append, ← List.cons_append, h.stepsOf_join]

theorem nul_not_mem_join (h : ProperName name) (hs : '\x00' ∉ s.toList) :
    '\x00' ∉ (Path.join s name).toList := by
  have hseparator : '\x00' ∉ separatorAfter s.toList := by
    unfold separatorAfter
    split <;> simp
  rw [h.toList_join, List.mem_append, List.mem_append]
  rintro ((hmem | hmem) | hmem)
  · exact hs hmem
  · exact hseparator hmem
  · exact h.no_nul hmem

end ProperName

theorem parse?_eq {c : Char} {cs : List Char} (htext : s.toList = c :: cs)
    (hnul : '\x00' ∉ s.toList) : Path.parse? s =
      .ok ⟨c = '/', Path.stepsOf (Text.fields '/' (if c = '/' then cs else c :: cs))⟩ := by
  rw [htext] at hnul
  unfold Path.parse?
  rw [htext]
  dsimp only
  rw [if_neg hnul]
  by_cases hc : c = '/' <;> simp [hc]

/-- The way into the directory that a path means. A slash at the end of the path says nothing more,
and the empty path says to stay. -/
def wayInto (directory : Location) (s : String) : Except Fault Way :=
  if s = "" then .ok ⟨directory, []⟩
  else (Path.parse? s).map fun path =>
    ⟨(path.way directory).place, path.steps.filter fun step => step ≠ .slash⟩

/-- A name behind the path of a directory is one more step on the way into the directory. -/
theorem parse?_join (hname : ProperName name) (h : wayInto directory s = .ok way) :
    ∃ path, Path.parse? (Path.join s name) = .ok path ∧
      path.way directory = way.append [.entry name] := by
  have htext := hname.toList_join s
  unfold wayInto at h
  split at h
  · next hs =>
    subst hs
    cases h
    obtain ⟨c, cs, hcs⟩ := List.exists_cons_of_ne_nil hname.toList_ne_nil
    have hc : c ≠ '/' := fun hc => hname.no_slash (by simp [hcs, hc])
    have hjoin : (Path.join "" name).toList = c :: cs := htext.trans hcs
    have hsteps : Path.stepsOf (Text.fields '/' name.toList) = [.entry name] :=
      hname.stepsOf_join []
    refine ⟨_, parse?_eq hjoin (hname.nul_not_mem_join List.not_mem_nil), ?_⟩
    rw [if_neg hc, ← hcs, hsteps]
    simp [hc, Path.way, Way.append]
  · next hs =>
    obtain ⟨c, cs, hcs⟩ := List.exists_cons_of_ne_nil fun hnil => hs (String.toList_eq_nil_iff.mp hnil)
    have hnul : '\x00' ∉ s.toList := by
      intro hnul
      rw [hcs] at hnul
      simp [Path.parse?, hcs, hnul, Except.map] at h
    rw [parse?_eq hcs hnul] at h
    cases h
    have hjoin : (Path.join s name).toList =
        c :: (cs ++ separatorAfter (c :: cs) ++ name.toList) := by
      rw [htext, hcs]
      rfl
    refine ⟨_, parse?_eq hjoin (hname.nul_not_mem_join hnul), ?_⟩
    have hsteps := hname.stepsOf_join_cons c cs
    unfold Path.way Way.append
    dsimp only
    rw [Path.filter_stepsOf, ← hsteps]

theorem wayInto_join (hname : ProperName name) (h : wayInto directory s = .ok way) :
    wayInto directory (Path.join s name) = .ok (way.append [.entry name]) := by
  obtain ⟨path, hpath, hway⟩ := parse?_join hname h
  have hne : Path.join s name ≠ "" := by
    intro hempty
    rw [hempty] at hpath
    cases hpath
  have hfilter : (way.steps.filter fun step => step ≠ .slash) = way.steps := by
    unfold wayInto at h
    split at h
    · cases h
      rfl
    · cases hparse : Path.parse? s with
      | error fault =>
        rw [hparse] at h
        cases h
      | ok parsed =>
        rw [hparse] at h
        cases h
        simp
  rw [wayInto, if_neg hne, hpath]
  show Except.ok (Way.mk (path.way directory).place
    ((path.way directory).steps.filter fun step => step ≠ .slash)) = _
  rw [hway]
  simp only [Way.append, List.filter_append, hfilter]
  rfl

end FileTree

end RevisionControl
