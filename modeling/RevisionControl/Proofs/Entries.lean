/-!
# Proofs: lists of entries

Variables, nodes and bindings are kept as lists of entries, a key with what is under it, and the
first entry of a key counts. An entry that takes the place of all others of its key changes what is
found under this key alone (`lookup_replace`).
-/

namespace RevisionControl

variable {κ α : Type} [BEq κ] [LawfulBEq κ]

/-- What is looked up behind a first entry. -/
theorem lookup_cons_eq_ite [DecidableEq κ] (key : κ) (value : α) (entries : List (κ × α))
    (other : κ) : ((key, value) :: entries).lookup other =
      if other = key then some value else entries.lookup other := by
  rw [List.lookup_cons]
  by_cases h : other = key
  · rw [if_pos h, beq_iff_eq.mpr h]
  · rw [if_neg h, beq_eq_false_iff_ne.mpr h]

/-- The entries of one key do not matter to another. -/
theorem lookup_filter_ne (entries : List (κ × α)) {key other : κ} (h : other ≠ key) :
    (entries.filter (·.1 != key)).lookup other = entries.lookup other := by
  induction entries with
  | nil => rfl
  | cons entry entries ih =>
    obtain ⟨first, value⟩ := entry
    rw [List.filter_cons]
    by_cases hfirst : first = key
    · have hother : (other == first) = false := beq_eq_false_iff_ne.mpr (hfirst ▸ h)
      rw [if_neg fun hne => bne_iff_ne.mp hne hfirst, List.lookup_cons, hother, ih]
    · rw [if_pos (bne_iff_ne.mpr hfirst), List.lookup_cons, List.lookup_cons, ih]

/-- An entry that takes the place of those of its key. -/
theorem lookup_replace [DecidableEq κ] (entries : List (κ × α)) (key : κ) (value : α) (other : κ) :
    ((key, value) :: entries.filter (·.1 != key)).lookup other =
      if other = key then some value else entries.lookup other := by
  rw [lookup_cons_eq_ite]
  by_cases h : other = key
  · rw [if_pos h, if_pos h]
  · rw [if_neg h, if_neg h, lookup_filter_ne entries h]

end RevisionControl
