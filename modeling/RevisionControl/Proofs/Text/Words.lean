import RevisionControl.Proofs.Text.Lines

/-!
# Proofs: words

A text that is spelled from words has a single blank after each of them (`Spelled`). A part of such
a text that has no blank in it lies within one word; if a gap comes after it, it is the end of its
word, the gap is the one blank behind that word, and what comes after the gap is the start of the
next one (`Spelled.next`).
-/

namespace RevisionControl.Text

/-- A text has no blank in it. -/
def NoBlank (cs : List Char) : Prop := ∀ c ∈ cs, isBlank c = false

/-- A text that is not empty has no blank in it. -/
def IsWord (cs : List Char) : Prop := cs ≠ [] ∧ NoBlank cs

/-- A text that is not empty has nothing but blanks in it. -/
def IsGap (cs : List Char) : Prop := cs ≠ [] ∧ AllBlank cs

/-- The text of some words, each with the blank that comes after it. -/
def spell (words : List (List Char × Char)) : List Char :=
  words.flatMap fun word => word.1 ++ [word.2]

/-- Words are words, and the blanks after them are blanks. -/
def Spelled (words : List (List Char × Char)) : Prop :=
  ∀ word ∈ words, IsWord word.1 ∧ isBlank word.2 = true

variable {cs gap rest segment stem tail text before : List Char} {sep : Char}
  {words later : List (List Char × Char)}

instance : Decidable (NoBlank cs) :=
  List.decidableBAll (isBlank · = false) cs

instance : Decidable (IsWord cs) :=
  inferInstanceAs (Decidable (_ ∧ _))

theorem spell_cons (word : List Char) (sep : Char) (words : List (List Char × Char)) :
    spell ((word, sep) :: words) = word ++ sep :: spell words :=
  List.append_assoc word [sep] _

/-! ## Words and gaps -/

theorem NoBlank.not_mem (h : NoBlank cs) (hsep : isBlank sep = true) : sep ∉ cs := by
  intro hmem
  rw [h sep hmem] at hsep
  cases hsep

theorem takeWhile_noBlank (hcs : NoBlank cs) (hgap : IsGap gap) :
    (cs ++ (gap ++ rest)).takeWhile (!isBlank ·) = cs := by
  obtain ⟨blank, more, rfl⟩ := List.exists_cons_of_ne_nil hgap.1
  have hblank : isBlank blank = true := hgap.2 blank List.mem_cons_self
  rw [List.takeWhile_append_of_pos, List.cons_append, List.takeWhile_cons_of_neg, List.append_nil]
  · rw [hblank]
    exact Bool.false_ne_true
  · intro c hc
    rw [hcs c hc]
    rfl

theorem dropWhile_noBlank (hcs : NoBlank cs) (hgap : IsGap gap) :
    (cs ++ (gap ++ rest)).dropWhile (!isBlank ·) = gap ++ rest := by
  obtain ⟨blank, more, rfl⟩ := List.exists_cons_of_ne_nil hgap.1
  have hblank : isBlank blank = true := hgap.2 blank List.mem_cons_self
  rw [List.dropWhile_append_of_pos, List.cons_append, List.dropWhile_cons_of_neg]
  · rw [hblank]
    exact Bool.false_ne_true
  · intro c hc
    rw [hcs c hc]
    rfl

/-! ## Parts of a spelled text -/

/-- A part with no blank in it that starts where a word goes on ends in that word. -/
theorem NoBlank.within (hsegment : NoBlank segment) (h : segment ++ rest = tail ++ sep :: text)
    (hsep : isBlank sep = true) :
    ∃ tail', tail = segment ++ tail' ∧ rest = tail' ++ sep :: text := by
  rcases List.append_eq_append_iff.mp h with ⟨tail', htail, hrest⟩ | ⟨excess, hexcess, htext⟩
  · exact ⟨tail', htail, hrest⟩
  · cases excess with
    | nil => exact ⟨[], by rw [hexcess, List.append_nil, List.append_nil], htext.symm⟩
    | cons c excess =>
      -- The blank after the word would be a character of the part.
      obtain ⟨rfl, -⟩ := List.cons.inj htext
      have hmem : sep ∈ segment := by
        rw [hexcess]
        exact List.mem_append_right _ List.mem_cons_self
      exact absurd hmem (hsegment.not_mem hsep)

/-- Every place in a spelled text is in a word or right behind it. -/
theorem Spelled.at_place (h : spell words = before ++ text) (hne : text ≠ []) :
    ∃ earlier stem tail sep later, words = earlier ++ (stem ++ tail, sep) :: later ∧
      before = spell earlier ++ stem ∧ text = tail ++ sep :: spell later := by
  induction words generalizing before with
  | nil =>
    obtain ⟨-, htext⟩ := List.append_eq_nil_iff.mp h.symm
    exact absurd htext hne
  | cons word words ih =>
    obtain ⟨word, sep⟩ := word
    rw [spell_cons] at h
    rcases List.append_eq_append_iff.mp h with ⟨excess, hbefore, hexcess⟩ | ⟨tail, hword, htext⟩
    · cases excess with
      | nil =>
        rw [List.append_nil] at hbefore
        refine ⟨[], word, [], sep, words, ?_, hbefore, hexcess.symm⟩
        rw [List.append_nil]
        rfl
      | cons c excess =>
        rw [List.cons_append] at hexcess
        obtain ⟨rfl, hmore⟩ := List.cons.inj hexcess
        obtain ⟨earlier, stem, tail, sep', later, hwords, hstem, htext⟩ := ih hmore
        refine ⟨(word, sep) :: earlier, stem, tail, sep', later, ?_, ?_, htext⟩
        · rw [hwords]
          rfl
        · rw [hbefore, hstem, spell_cons, List.append_assoc]
          rfl
    · refine ⟨[], before, tail, sep, words, ?_, rfl, htext⟩
      rw [hword]
      rfl

/-- Behind the place where a word goes on there is a gap, and a part with no blank in it: then the
word ends there, the gap is the blank after it, and the part starts the next word. -/
theorem Spelled.next (hlater : Spelled later) (htail : NoBlank tail) (hsep : isBlank sep = true)
    (hgap : IsGap gap) (hsegment : IsWord segment)
    (h : gap ++ (segment ++ rest) = tail ++ sep :: spell later) :
    tail = [] ∧ gap = [sep] ∧ ∃ tail' sep' later', later = (segment ++ tail', sep') :: later' ∧
      rest = tail' ++ sep' :: spell later' := by
  obtain ⟨blank, gap, rfl⟩ := List.exists_cons_of_ne_nil hgap.1
  have hblank : isBlank blank = true := hgap.2 blank List.mem_cons_self
  have hnil : tail = [] := by
    cases tail with
    | nil => rfl
    | cons c tail =>
      obtain ⟨rfl, -⟩ := List.cons.inj h
      exact absurd List.mem_cons_self (htail.not_mem hblank)
  subst hnil
  rw [List.cons_append, List.nil_append] at h
  obtain ⟨rfl, hmore⟩ := List.cons.inj h
  cases later with
  | nil =>
    obtain ⟨-, hpart⟩ := List.append_eq_nil_iff.mp hmore
    exact absurd (List.append_eq_nil_iff.mp hpart).1 hsegment.1
  | cons word later =>
    obtain ⟨word, sep'⟩ := word
    obtain ⟨⟨hne, hword⟩, hsep'⟩ := hlater _ List.mem_cons_self
    rw [spell_cons] at hmore
    have hnil : gap = [] := by
      cases gap with
      | nil => rfl
      | cons c gap =>
        obtain ⟨d, word, rfl⟩ := List.exists_cons_of_ne_nil hne
        obtain ⟨rfl, -⟩ := List.cons.inj hmore
        have hc : isBlank c = true := hgap.2 c (List.mem_cons_of_mem blank List.mem_cons_self)
        exact absurd List.mem_cons_self (hword.not_mem hc)
    subst hnil
    obtain ⟨tail', rfl, hrest⟩ := hsegment.2.within hmore hsep'
    exact ⟨rfl, rfl, tail', sep', later, rfl, hrest⟩

end RevisionControl.Text
