import RevisionControl.Proofs.Json.Skipping

/-!
# Members as mappings

The members of an object are kept in ascending order of their keys, so they are determined by what
they give for each key (`Members.ext`). What `ofList` gives for a key is the last value written
for it, and members that ascend already are left as they are.
-/

namespace RevisionControl.Json

variable {α : Type}

/-! ## The last value of a key -/

/-- The last value given for a key. -/
def lastOf (key : String) (written : List (String × α)) : Option α :=
  ((written.filter (·.1 == key)).getLast?).map Prod.snd

/-- A later member with the key counts, and the first one only if there is none. -/
theorem lastOf_cons (key : String) (m : String × α) (more : List (String × α)) :
    lastOf key (m :: more) = (lastOf key more).or (if m.1 = key then some m.2 else none) := by
  by_cases hm : m.1 = key
  · simp only [lastOf, List.filter_cons, hm, beq_self_eq_true, if_true, List.getLast?_cons,
      Option.map_some]
    cases (more.filter (·.1 == key)).getLast? <;> rfl
  · have hm' : (m.1 == key) = false := by simpa using hm
    simp [lastOf, hm, hm']

theorem lastOf_eq_none {key : String} {written : List (String × α)} :
    lastOf key written = none ↔ ∀ m ∈ written, m.1 ≠ key := by
  simp [lastOf]

namespace Members

/-! ## Ascending keys -/

theorem ascending_cons {m : String × Value} {more : Members} :
    Ascending (m :: more) ↔ (∀ n ∈ more, m.1 < n.1) ∧ Ascending more := by
  induction more generalizing m with
  | nil => simp [Ascending]
  | cons n rest ih =>
    rw [Ascending, ih]
    constructor
    · rintro ⟨hmn, hn, hrest⟩
      refine ⟨fun x hx => ?_, hn, hrest⟩
      rcases List.mem_cons.mp hx with rfl | hx
      · exact hmn
      · exact String.lt_trans hmn (hn x hx)
    · rintro ⟨hm, hn, hrest⟩
      exact ⟨hm n List.mem_cons_self, hn, hrest⟩

theorem lt_of_not_lt {k l : String} (h : ¬ k < l) (hne : k ≠ l) : l < k :=
  Std.lt_of_le_of_ne (String.not_lt.mp h) hne.symm

/-- Inserting brings in no other member. -/
theorem mem_insert {m : String × Value} {key : String} {v : Value} {members : Members}
    (h : m ∈ members.insert key v) : m = (key, v) ∨ m ∈ members := by
  induction members with
  | nil => exact .inl (List.mem_singleton.mp h)
  | cons n rest ih =>
    rw [insert] at h
    split at h
    · rcases List.mem_cons.mp h with rfl | h
      · exact .inl rfl
      · exact .inr h
    split at h
    · rcases List.mem_cons.mp h with rfl | h
      · exact .inl rfl
      · exact .inr (List.mem_cons_of_mem _ h)
    · rcases List.mem_cons.mp h with rfl | h
      · exact .inr List.mem_cons_self
      · rcases ih h with rfl | h
        · exact .inl rfl
        · exact .inr (List.mem_cons_of_mem _ h)

theorem insert_ascending {members : Members} (h : members.Ascending) (key : String) (v : Value) :
    (members.insert key v).Ascending := by
  induction members with
  | nil => simp [insert, Ascending]
  | cons n rest ih =>
    obtain ⟨hn, hrest⟩ := ascending_cons.mp h
    rw [insert]
    split
    · next hlt =>
      refine ascending_cons.mpr ⟨fun m hm => ?_, h⟩
      rcases List.mem_cons.mp hm with rfl | hm
      · exact hlt
      · exact String.lt_trans hlt (hn m hm)
    split
    · next heq =>
      refine ascending_cons.mpr ⟨fun m hm => ?_, hrest⟩
      rw [heq]
      exact hn m hm
    · next hlt hne =>
      refine ascending_cons.mpr ⟨fun m hm => ?_, ih hrest⟩
      rcases mem_insert hm with rfl | hm
      · exact lt_of_not_lt hlt hne
      · exact hn m hm

theorem get?_cons (m : String × Value) (more : Members) (key : String) :
    Members.get? (m :: more) key = if m.1 = key then some m.2 else more.get? key := by
  obtain ⟨k, v⟩ := m
  by_cases hk : k = key
  · simp [get?, hk]
  · have hk' : (key == k) = false := by simpa using Ne.symm hk
    simp [get?, List.lookup_cons, hk, hk']

theorem get?_insert (members : Members) (key : String) (v : Value) (k : String) :
    (members.insert key v).get? k = if key = k then some v else members.get? k := by
  induction members with
  | nil => rw [insert, get?_cons]
  | cons n rest ih =>
    rw [insert]
    split
    · rw [get?_cons]
    split
    · next heq =>
      rw [get?_cons, get?_cons]
      by_cases hk : key = k
      · simp [hk]
      · have hk' : ¬ n.1 = k := heq ▸ hk
        simp [hk, hk']
    · next hne =>
      rw [get?_cons, get?_cons, ih]
      by_cases hk : key = k
      · have hk' : ¬ n.1 = k := by
          rintro rfl
          exact hne hk
        simp [hk, hk']
      · simp [hk]

/-! ## The mapping of written members -/

/-- Written members one after the other, on top of members already there. -/
theorem foldl_insert (written : List (String × Value)) :
    ∀ members : Members, Ascending members →
      Ascending (written.foldl (fun ms m => ms.insert m.1 m.2) members) ∧
      (∀ key, Members.get? (written.foldl (fun ms m => ms.insert m.1 m.2) members) key =
        (lastOf key written).or (members.get? key)) ∧
      ∀ m ∈ written.foldl (fun ms m => ms.insert m.1 m.2) members, m ∈ written ∨ m ∈ members := by
  induction written with
  | nil => exact fun members h => ⟨h, fun key => rfl, fun m hm => .inr hm⟩
  | cons m more ih =>
    intro members h
    obtain ⟨hascending, hget, hmem⟩ := ih (members.insert m.1 m.2) (insert_ascending h _ _)
    refine ⟨hascending, fun key => ?_, fun n hn => ?_⟩
    · rw [List.foldl_cons, hget, get?_insert, lastOf_cons, Option.or_assoc]
      congr 1
      split <;> rfl
    · rcases hmem n hn with hn | hn
      · exact .inl (List.mem_cons_of_mem _ hn)
      · rcases mem_insert hn with rfl | hn
        · exact .inl List.mem_cons_self
        · exact .inr hn

theorem ofList_ascending (written : List (String × Value)) : Ascending (ofList written) :=
  (foldl_insert written [] trivial).1

theorem get?_ofList (written : List (String × Value)) (key : String) :
    (ofList written).get? key = lastOf key written := by
  have hget := (foldl_insert written [] trivial).2.1 key
  rw [show Members.get? [] key = none from rfl, Option.or_none] at hget
  exact hget

theorem mem_of_mem_ofList {written : List (String × Value)} {m : String × Value}
    (h : m ∈ ofList written) : m ∈ written := by
  rcases (foldl_insert written [] trivial).2.2 m h with h | h
  · exact h
  · cases h

/-- Nothing is given for a key before all keys. -/
theorem get?_eq_none_of_lt {members : Members} {key : String} (h : ∀ m ∈ members, key < m.1) :
    members.get? key = none := by
  induction members with
  | nil => rfl
  | cons m more ih =>
    have hm : ¬ m.1 = key := by
      rintro rfl
      exact String.lt_irrefl _ (h m List.mem_cons_self)
    rw [get?_cons, if_neg hm]
    exact ih fun n hn => h n (List.mem_cons_of_mem _ hn)

/-- Of members that give the same for each key, neither starts before the other. -/
theorem not_lt_head {m n : String × Value} {more rest : Members} (h : Ascending (n :: rest))
    (hget : ∀ key, Members.get? (m :: more) key = Members.get? (n :: rest) key) :
    ¬ m.1 < n.1 := by
  intro hlt
  obtain ⟨hn, -⟩ := ascending_cons.mp h
  have hnone : Members.get? (n :: rest) m.1 = none := by
    refine get?_eq_none_of_lt fun x hx => ?_
    rcases List.mem_cons.mp hx with rfl | hx
    · exact hlt
    · exact String.lt_trans hlt (hn x hx)
  have hsome := hget m.1
  rw [hnone, get?_cons, if_pos rfl] at hsome
  cases hsome

/-- A member is what is given for its key. -/
theorem get?_of_mem {members : Members} (h : members.Ascending) {m : String × Value}
    (hm : m ∈ members) : members.get? m.1 = some m.2 := by
  induction members with
  | nil => cases hm
  | cons n rest ih =>
    obtain ⟨hn, hrest⟩ := ascending_cons.mp h
    rw [get?_cons]
    rcases List.mem_cons.mp hm with rfl | hm
    · rw [if_pos rfl]
    · have hne : ¬ n.1 = m.1 := fun heq => String.lt_irrefl _ (heq ▸ hn m hm)
      rw [if_neg hne, ih hrest hm]

/-- Ascending members are determined by what they give for each key. -/
theorem ext {members members' : Members} (h : members.Ascending) (h' : members'.Ascending)
    (hget : ∀ key, members.get? key = members'.get? key) : members = members' := by
  induction members generalizing members' with
  | nil =>
    cases members' with
    | nil => rfl
    | cons n rest =>
      have hn := hget n.1
      rw [get?_cons, if_pos rfl] at hn
      cases hn
  | cons m more ih =>
    obtain ⟨hm, hmore⟩ := ascending_cons.mp h
    cases members' with
    | nil =>
      have hm := hget m.1
      rw [get?_cons, if_pos rfl] at hm
      cases hm
    | cons n rest =>
      obtain ⟨hn, hrest⟩ := ascending_cons.mp h'
      have hkey : m.1 = n.1 := by
        refine String.le_antisymm (String.not_lt.mp ?_) (String.not_lt.mp ?_)
        · exact not_lt_head h fun key => (hget key).symm
        · exact not_lt_head h' hget
      have hvalue : m.2 = n.2 := by
        have hboth := hget m.1
        rw [get?_cons, get?_cons, if_pos rfl, if_pos hkey.symm] at hboth
        exact Option.some.inj hboth
      have hrest' : more = rest := by
        refine ih hmore hrest fun key => ?_
        by_cases hk : m.1 = key
        · subst hk
          rw [get?_eq_none_of_lt hm, get?_eq_none_of_lt fun x hx => hkey ▸ hn x hx]
        · have hboth := hget key
          rw [get?_cons, get?_cons, if_neg hk, if_neg fun h => hk (hkey.trans h)] at hboth
          exact hboth
      rw [Prod.ext hkey hvalue, hrest']

/-- Members that ascend are left as they are. -/
theorem ofList_of_ascending {members : Members} (h : members.Ascending) :
    ofList members = members := by
  refine ext (ofList_ascending members) h fun key => ?_
  rw [get?_ofList]
  induction members with
  | nil => rfl
  | cons m more ih =>
    obtain ⟨hm, hmore⟩ := ascending_cons.mp h
    rw [lastOf_cons, get?_cons, ih hmore]
    by_cases hk : m.1 = key
    · subst hk
      rw [get?_eq_none_of_lt hm]
      simp
    · simp [hk]

/-- The mapping of members is what they give last for each key. -/
theorem ofList_eq_ofList {written written' : List (String × Value)} :
    ofList written = ofList written' ↔ ∀ key, lastOf key written = lastOf key written' := by
  constructor
  · intro h key
    rw [← get?_ofList, ← get?_ofList, h]
  · intro h
    refine ext (ofList_ascending written) (ofList_ascending written') fun key => ?_
    rw [get?_ofList, get?_ofList, h key]

theorem ofList_eq_nil {written : List (String × Value)} : ofList written = [] ↔ written = [] := by
  constructor
  · intro h
    refine List.eq_nil_iff_forall_not_mem.mpr fun m hm => ?_
    have hnone : lastOf m.1 written = none := by
      rw [← get?_ofList, h]
      rfl
    exact lastOf_eq_none.mp hnone m hm rfl
  · rintro rfl
    rfl

/-- Written members give a single entry exactly when they all have one key. -/
theorem ofList_eq_singleton {written : List (String × Value)} {key : String} {v : Value} :
    ofList written = [(key, v)] ↔ lastOf key written = some v ∧ ∀ m ∈ written, m.1 = key := by
  constructor
  · intro h
    have hget : ∀ k, lastOf k written = if key = k then some v else none := by
      intro k
      rw [← get?_ofList, h, get?_cons]
      rfl
    refine ⟨by rw [hget, if_pos rfl], fun m hm => ?_⟩
    apply Classical.byContradiction
    intro hne
    have hnone : lastOf m.1 written = none := by rw [hget, if_neg (Ne.symm hne)]
    exact lastOf_eq_none.mp hnone m hm rfl
  · rintro ⟨hlast, hall⟩
    refine ext (ofList_ascending written) (by simp [Ascending]) fun k => ?_
    rw [get?_ofList, get?_cons]
    by_cases hk : key = k
    · subst hk
      rw [hlast, if_pos rfl]
    · rw [if_neg hk]
      exact lastOf_eq_none.mpr fun m hm h => hk ((hall m hm).symm.trans h)

end Members

end RevisionControl.Json
