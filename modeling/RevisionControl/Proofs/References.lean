import RevisionControl.Proofs.DefaultBranch
import RevisionControl.Proofs.Remotes
import RevisionControl.Proofs.Text.Words

/-!
# Proofs: the default branch that a remote tells

A remote that is asked for `HEAD` lists references, one per line. The branch is not read off the
lines: the first match of a pattern is taken (`headTargetChars?_eq_some_iff`), which may start
anywhere and whose gaps may run over the end of a line. In a listing as Git writes it every match is
a whole line all the same (`ReferenceLine.whole_line`). A match has three words in a row, of which
the last two are like no first word of a line; so the first of them is the first of its line.
-/

namespace RevisionControl.Git

open Host Text

variable {cs branch before matched rest stem tail : List Char}

/-! ## The pattern -/

/-- A text is a match of the pattern, for a branch. -/
inductive NamesHead : List Char → List Char → Prop where
  /-- Two gaps part the three words. -/
  | intro {gap branch gap' : List Char} (hgap : IsGap gap) (hbranch : IsWord branch)
      (hgap' : IsGap gap') :
      NamesHead branch
        ("ref:".toList ++ (gap ++ ("refs/heads/".toList ++ (branch ++ (gap' ++ "HEAD".toList)))))

theorem NamesHead.isWord (h : NamesHead branch matched) : IsWord branch := by
  cases h with
  | intro _ hbranch _ => exact hbranch

/-- Behind the start of a text there is a match for a branch. -/
def NamedBehind (cs before branch : List Char) : Prop :=
  ∃ matched rest, cs = before ++ (matched ++ rest) ∧ NamesHead branch matched

theorem exists_gap_of_dropBlanks? (h : dropBlanks? cs = some rest) :
    ∃ gap, IsGap gap ∧ cs = gap ++ rest := by
  cases cs with
  | nil => cases h
  | cons c cs =>
    rw [dropBlanks?] at h
    by_cases hblank : isBlank c = true
    · rw [if_pos hblank] at h
      refine ⟨c :: cs.takeWhile isBlank, ⟨List.cons_ne_nil _ _, ?_⟩, ?_⟩
      · intro d hd
        rcases List.mem_cons.mp hd with rfl | hd
        · exact hblank
        · exact List.all_eq_true.mp List.all_takeWhile d hd
      · rw [← Option.some.inj h, List.cons_append, List.takeWhile_append_dropWhile]
    · rw [if_neg hblank] at h
      cases h

theorem dropBlanks?_append {gap : List Char} (hgap : IsGap gap)
    (hrest : ∀ c ∈ rest.head?, isBlank c = false) : dropBlanks? (gap ++ rest) = some rest := by
  obtain ⟨blank, gap, rfl⟩ := List.exists_cons_of_ne_nil hgap.1
  have hblank : isBlank blank = true := hgap.2 blank List.mem_cons_self
  rw [List.cons_append, dropBlanks?, if_pos hblank, List.dropWhile_append_of_pos]
  · cases rest with
    | nil => rfl
    | cons c rest =>
      rw [List.dropWhile_cons_of_neg]
      rw [hrest c rfl]
      exact Bool.false_ne_true
  · intro c hc
    exact hgap.2 c (List.mem_cons_of_mem blank hc)

theorem headTargetHere?_eq_some_iff :
    headTargetHere? cs = some branch ↔ NamedBehind cs [] branch := by
  constructor
  · intro h
    simp only [headTargetHere?, Option.bind_eq_bind, Option.bind_eq_some_iff] at h
    obtain ⟨cs₁, h₁, cs₂, h₂, cs₃, h₃, cs₄, h₄, rest, h₅, h⟩ := h
    split at h
    · cases h
    · rename_i hne
      have hbranch : cs₃.takeWhile (!isBlank ·) = branch := Option.some.inj h
      obtain ⟨gap, hgap, hcs₁⟩ := exists_gap_of_dropBlanks? h₂
      obtain ⟨gap', hgap', hcs₃⟩ := exists_gap_of_dropBlanks? h₄
      have hword : IsWord branch := by
        rw [← hbranch]
        refine ⟨fun hnil => hne (by rw [hnil]; rfl), fun c hc => ?_⟩
        have hnot := List.all_eq_true.mp List.all_takeWhile c hc
        exact (Bool.not_eq_true' _).mp hnot
      refine ⟨_, rest, ?_, .intro hgap hword hgap'⟩
      have hsplit := List.takeWhile_append_dropWhile (p := (!isBlank ·)) (l := cs₃)
      rw [hbranch, hcs₃, ← List.isPrefixOf?_eq_some_iff_append_eq.mp h₅] at hsplit
      rw [← List.isPrefixOf?_eq_some_iff_append_eq.mp h₁, hcs₁,
        ← List.isPrefixOf?_eq_some_iff_append_eq.mp h₃, ← hsplit]
      simp only [List.append_assoc, List.nil_append]
  · rintro ⟨matched, rest, rfl, hmatch⟩
    cases hmatch with
    | @intro gap branch gap' hgap hbranch hgap' =>
      have hne : ¬ branch.isEmpty = true := fun hnil => hbranch.1 (List.isEmpty_iff.mp hnil)
      simp only [List.nil_append, List.append_assoc, headTargetHere?, Option.bind_eq_bind,
        Option.bind_eq_some_iff]
      refine ⟨_, List.isPrefixOf?_eq_some_iff_append_eq.mpr rfl, _, dropBlanks?_append hgap ?_, _,
        List.isPrefixOf?_eq_some_iff_append_eq.mpr rfl, "HEAD".toList ++ rest, ?_, _,
        List.isPrefixOf?_eq_some_iff_append_eq.mpr rfl, ?_⟩
      · intro c hc
        obtain rfl : 'r' = c := Option.some.inj hc
        rfl
      · rw [dropWhile_noBlank hbranch.2 hgap']
        refine dropBlanks?_append hgap' ?_
        intro c hc
        obtain rfl : 'H' = c := Option.some.inj hc
        rfl
      · rw [takeWhile_noBlank hbranch.2 hgap', if_neg hne]

/-! ## The search -/

theorem NamedBehind.cons_iff {c : Char} (hnone : headTargetHere? (c :: cs) = none) :
    NamedBehind (c :: cs) before branch ↔
      ∃ before', before = c :: before' ∧ NamedBehind cs before' branch := by
  constructor
  · intro h
    cases before with
    | nil =>
      rw [headTargetHere?_eq_some_iff.mpr h] at hnone
      cases hnone
    | cons d before =>
      obtain ⟨matched, rest, htext, hmatch⟩ := h
      rw [List.cons_append] at htext
      obtain ⟨rfl, hcs⟩ := List.cons.inj htext
      exact ⟨before, rfl, matched, rest, hcs, hmatch⟩
  · rintro ⟨before, rfl, matched, rest, rfl, hmatch⟩
    exact ⟨matched, rest, rfl, hmatch⟩

/-- The search finds the first match, wherever it starts. -/
theorem headTargetChars?_eq_some_iff :
    headTargetChars? cs = some branch ↔
      ∃ before, NamedBehind cs before branch ∧
        ∀ before' branch', NamedBehind cs before' branch' → before.length ≤ before'.length := by
  induction cs generalizing branch with
  | nil =>
    constructor
    · intro h
      cases h
    · rintro ⟨before, ⟨matched, rest, hcs, hmatch⟩, -⟩
      cases hmatch
      simp at hcs
  | cons c cs ih =>
    rw [headTargetChars?]
    cases hhere : headTargetHere? (c :: cs) with
    | some found =>
      have hfound := headTargetHere?_eq_some_iff.mp hhere
      dsimp only
      constructor
      · intro h
        obtain rfl := Option.some.inj h
        exact ⟨[], hfound, fun _ _ _ => Nat.zero_le _⟩
      · rintro ⟨before, hbranch, hfirst⟩
        have hnil : before = [] :=
          List.eq_nil_of_length_eq_zero (Nat.le_zero.mp (hfirst [] found hfound))
        rw [hnil] at hbranch
        rw [← hhere, headTargetHere?_eq_some_iff.mpr hbranch]
    | none =>
      dsimp only
      rw [ih]
      constructor
      · rintro ⟨before, hbranch, hfirst⟩
        refine ⟨c :: before, (NamedBehind.cons_iff hhere).mpr ⟨before, rfl, hbranch⟩, ?_⟩
        intro before' branch' h
        obtain ⟨before', rfl, hmatch⟩ := (NamedBehind.cons_iff hhere).mp h
        exact Nat.succ_le_succ (hfirst before' branch' hmatch)
      · rintro ⟨before, hbranch, hfirst⟩
        obtain ⟨before, rfl, hmatch⟩ := (NamedBehind.cons_iff hhere).mp hbranch
        refine ⟨before, hmatch, fun before' branch' h => ?_⟩
        have hcons := (NamedBehind.cons_iff hhere).mpr ⟨before', rfl, h⟩
        exact Nat.le_of_succ_le_succ (hfirst (c :: before') branch' hcons)

/-- Where a match is in a text spelled from words, three words stand in a row. -/
theorem NamesHead.words_of_spelled {words : List (List Char × Char)}
    (hmatch : NamesHead branch matched) (hwords : Spelled words)
    (h : spell words = before ++ (matched ++ rest)) :
    ∃ earlier stem tail a b c later,
      words = earlier ++ (stem ++ "ref:".toList, a) :: ("refs/heads/".toList ++ branch, b) ::
        ("HEAD".toList ++ tail, c) :: later ∧
      before = spell earlier ++ stem ∧
      matched = "ref:".toList ++ a :: ("refs/heads/".toList ++ branch ++ b :: "HEAD".toList) ∧
      rest = tail ++ c :: spell later := by
  cases hmatch with
  | @intro gap branch gap' hgap hbranch hgap' =>
    obtain ⟨earlier, stem, tail, a, later, rfl, rfl, hplace⟩ := Spelled.at_place h (by simp)
    have hlater : Spelled later := fun word hword =>
      hwords word (List.mem_append_right _ (List.mem_cons_of_mem _ hword))
    obtain ⟨⟨-, hnoblank⟩, ha⟩ := hwords _ (List.mem_append_right _ List.mem_cons_self)
    -- Each part of the match cuts its word: what is left of the word is the tail.
    simp only [List.append_assoc] at hplace
    obtain ⟨tail, rfl, hfirst⟩ := NoBlank.within (by decide) hplace ha
    have htail : NoBlank tail := fun c hc =>
      hnoblank c (List.mem_append_right _ (List.mem_append_right _ hc))
    have hword : IsWord ("refs/heads/".toList ++ branch) :=
      ⟨by simp, fun c hc => (List.mem_append.mp hc).elim
        ((by decide : NoBlank "refs/heads/".toList) c) (hbranch.2 c)⟩
    rw [← List.append_assoc "refs/heads/".toList] at hfirst
    obtain ⟨rfl, rfl, tail, b, later, rfl, hsecond⟩ := hlater.next htail ha hgap hword hfirst
    obtain ⟨⟨-, hnoblank⟩, hb⟩ := hlater _ List.mem_cons_self
    have htail : NoBlank tail := fun c hc => hnoblank c (List.mem_append_right _ hc)
    have hlater' : Spelled later := fun word hword => hlater word (List.mem_cons_of_mem _ hword)
    obtain ⟨rfl, rfl, tail, c, later, rfl, rfl⟩ :=
      hlater'.next htail hb hgap' (by decide : IsWord "HEAD".toList) hsecond
    refine ⟨earlier, stem, tail, a, b, c, later, ?_, rfl, ?_, rfl⟩
    · rw [List.append_nil, List.append_nil]
    · simp only [List.append_assoc, List.cons_append, List.nil_append]

/-! ## Listings of references -/

/-- The hexadecimal digits. -/
def hexDigits : List Char := "0123456789abcdefABCDEF".toList

/-- A text of hexadecimal digits that is not empty. -/
def IsHash (hash : String) : Prop :=
  hash ≠ "" ∧ ∀ c ∈ hash.toList, c ∈ hexDigits

instance (hash : String) : Decidable (IsHash hash) :=
  @instDecidableAnd _ _ _ (List.decidableBAll (· ∈ hexDigits) hash.toList)

/-- A name of a reference: `HEAD`, or a word that starts with `refs/`. -/
def IsName (name : String) : Prop :=
  IsWord name.toList ∧ (name = "HEAD" ∨ "refs/".toList <+: name.toList)

instance (name : String) : Decidable (IsName name) :=
  inferInstanceAs (Decidable (_ ∧ _))

/-- A line of a listing of references. -/
inductive ReferenceLine where
  /-- The name of a reference that stands for another one, its target. -/
  | symbolic (target name : String)
  /-- The name of a reference and the hash that it stands for. -/
  | direct (hash name : String)
deriving DecidableEq, Repr

namespace ReferenceLine

/-- The line with its end. -/
def text : ReferenceLine → String
  | symbolic target name => "ref: " ++ target ++ "\t" ++ name ++ "\n"
  | direct hash name => hash ++ "\t" ++ name ++ "\n"

/-- A line as Git writes it. -/
def Proper : ReferenceLine → Prop
  | symbolic target name => IsWord target.toList ∧ IsName name
  | direct hash name => IsHash hash ∧ IsName name

instance : DecidablePred Proper
  | symbolic _ _ => inferInstanceAs (Decidable (_ ∧ _))
  | direct _ _ => inferInstanceAs (Decidable (_ ∧ _))

/-- The line that tells a branch as the target of `HEAD`. -/
def head (branch : String) : ReferenceLine := symbolic ("refs/heads/" ++ branch) "HEAD"

/-- The words of a line, each with the blank after it. -/
def words : ReferenceLine → List (List Char × Char)
  | symbolic target name => [("ref:".toList, ' '), (target.toList, '\t'), (name.toList, '\n')]
  | direct hash name => [(hash.toList, '\t'), (name.toList, '\n')]

/-- The text of a listing. -/
def listing (lines : List ReferenceLine) : String := String.join (lines.map text)

variable {line : ReferenceLine} {lines : List ReferenceLine}

theorem spell_words (line : ReferenceLine) : spell line.words = line.text.toList := by
  cases line <;> simp [spell, words, text]

theorem spell_flatMap_words (lines : List ReferenceLine) :
    spell (lines.flatMap words) = (listing lines).toList := by
  unfold listing spell
  rw [String.toList_join, List.flatMap_assoc, List.flatMap_map]
  congr 1
  funext line
  exact spell_words line

theorem Proper.spelled (h : line.Proper) : Spelled line.words := by
  intro word hword
  cases line with
  | symbolic target name =>
    obtain ⟨htarget, hname, -⟩ := h
    simp only [words, List.mem_cons, List.not_mem_nil, or_false] at hword
    rcases hword with rfl | rfl | rfl
    · exact ⟨by decide, rfl⟩
    · exact ⟨htarget, rfl⟩
    · exact ⟨hname, rfl⟩
  | direct hash name =>
    obtain ⟨⟨hne, hhash⟩, hname, -⟩ := h
    have hdigits : NoBlank hexDigits := by decide
    simp only [words, List.mem_cons, List.not_mem_nil, or_false] at hword
    rcases hword with rfl | rfl
    · exact ⟨⟨fun hnil => hne (String.toList_eq_nil_iff.mp hnil),
        fun c hc => hdigits c (hhash c hc)⟩, rfl⟩
    · exact ⟨hname, rfl⟩

/-! ## Matches are lines -/

variable {word branch before matched rest stem tail : List Char} {sep a b c : Char}
  {earlier later : List (List Char × Char)}

theorem exists_proper_lead (hproper : ∀ line ∈ lines, line.Proper)
    (h : lines.flatMap words = (word, sep) :: later) :
    word = "ref:".toList ∨ ∀ c ∈ word, c ∈ hexDigits := by
  cases lines with
  | nil => cases h
  | cons line lines =>
    have hline := hproper line List.mem_cons_self
    cases line with
    | symbolic target name =>
      obtain ⟨hword, -⟩ := List.cons.inj h
      exact Or.inl (Prod.mk.inj hword).1.symm
    | direct hash name =>
      obtain ⟨hword, -⟩ := List.cons.inj h
      obtain rfl := (Prod.mk.inj hword).1
      exact Or.inr hline.1.2

/-- The first word of a line is neither like the second nor like the third word of a match. -/
theorem lead_ne (hproper : ∀ line ∈ lines, line.Proper)
    (h : lines.flatMap words = (word, sep) :: later) :
    (∀ branch, word ≠ "refs/heads/".toList ++ branch) ∧ ∀ tail, word ≠ "HEAD".toList ++ tail := by
  rcases exists_proper_lead hproper h with rfl | hdigits
  · refine ⟨fun branch heq => ?_, fun tail heq => ?_⟩
    · simp at heq
    · simp at heq
  · refine ⟨?_, ?_⟩
    · rintro branch rfl
      exact absurd (hdigits 'r' (List.mem_append_left _ (by decide))) (by decide)
    · rintro tail rfl
      exact absurd (hdigits 'H' (List.mem_append_left _ (by decide))) (by decide)

theorem eq_HEAD_of_isName {name : String} (hname : IsName name)
    (h : name.toList = "HEAD".toList ++ tail) : name = "HEAD" := by
  rcases hname.2 with hhead | ⟨more, hrefs⟩
  · exact hhead
  · rw [h] at hrefs
    obtain ⟨hr, -⟩ := List.cons.inj hrefs
    exact absurd hr (by decide)

/-- Three words in a row that are like those of a match are the words of one line. -/
theorem exists_head_of_words (hproper : ∀ line ∈ lines, line.Proper)
    (h : lines.flatMap words = earlier ++ (stem ++ "ref:".toList, a) ::
      ("refs/heads/".toList ++ branch, b) :: ("HEAD".toList ++ tail, c) :: later) :
    ∃ front back, lines = front ++ head (String.ofList branch) :: back ∧
      earlier = front.flatMap words := by
  induction lines generalizing earlier with
  | nil =>
    obtain ⟨-, hnil⟩ := List.append_eq_nil_iff.mp h.symm
    cases hnil
  | cons line lines ih =>
    have hline := hproper line List.mem_cons_self
    have hlines : ∀ line ∈ lines, line.Proper :=
      fun l hl => hproper l (List.mem_cons_of_mem line hl)
    rw [List.flatMap_cons] at h
    cases line with
    | symbolic target name =>
      rcases earlier with _ | ⟨first, _ | ⟨second, _ | ⟨third, earlier⟩⟩⟩ <;>
        simp only [words, List.cons_append, List.nil_append, List.cons.injEq, Prod.mk.injEq] at h
      · obtain ⟨-, ⟨htarget, -⟩, ⟨hname, -⟩, -⟩ := h
        have htarget' : target = "refs/heads/" ++ String.ofList branch := by
          rw [← String.toList_inj, htarget, String.toList_append]
          exact congrArg ("refs/heads/".toList ++ ·) String.toList_ofList.symm
        rw [htarget', eq_HEAD_of_isName hline.2 hname]
        exact ⟨[], lines, rfl, rfl⟩
      -- If the target or the name ended in the first word, another would start the next line.
      · exact absurd rfl ((lead_ne hlines h.2.2.2).2 tail)
      · exact absurd rfl ((lead_ne hlines h.2.2.2).1 branch)
      · obtain ⟨rfl, rfl, rfl, h⟩ := h
        obtain ⟨front, back, rfl, rfl⟩ := ih hlines h
        exact ⟨symbolic target name :: front, back, rfl, rfl⟩
    | direct hash name =>
      rcases earlier with _ | ⟨first, _ | ⟨second, earlier⟩⟩ <;>
        simp only [words, List.cons_append, List.nil_append, List.cons.injEq, Prod.mk.injEq] at h
      · have hr : 'r' ∈ hash.toList := by
          rw [h.1.1]
          exact List.mem_append_right _ (by decide)
        exact absurd (hline.1.2 'r' hr) (by decide)
      · exact absurd rfl ((lead_ne hlines h.2.2).1 branch)
      · obtain ⟨rfl, rfl, h⟩ := h
        obtain ⟨front, back, rfl, rfl⟩ := ih hlines h
        exact ⟨direct hash name :: front, back, rfl, rfl⟩

/-- In a listing a match is a whole line, up to its end. -/
theorem whole_line (hproper : ∀ line ∈ lines, line.Proper)
    (h : (listing lines).toList = before ++ (matched ++ rest)) (hmatch : NamesHead branch matched) :
    ∃ front back, lines = front ++ head (String.ofList branch) :: back ∧
      before = (listing front).toList ∧
      matched ++ ['\n'] = (head (String.ofList branch)).text.toList ∧
      rest = '\n' :: (listing back).toList := by
  have hspelled : Spelled (lines.flatMap words) := by
    intro word hword
    obtain ⟨line, hline, hword⟩ := List.mem_flatMap.mp hword
    exact (hproper line hline).spelled word hword
  rw [← spell_flatMap_words] at h
  obtain ⟨earlier, stem, tail, a, b, c, later, hwords, rfl, rfl, rfl⟩ :=
    hmatch.words_of_spelled hspelled h
  obtain ⟨front, back, rfl, rfl⟩ := exists_head_of_words hproper hwords
  rw [List.flatMap_append, List.flatMap_cons] at hwords
  have hline := List.append_cancel_left hwords
  simp only [words, head, List.cons_append, List.nil_append, List.cons.injEq,
    Prod.mk.injEq] at hline
  obtain ⟨⟨hstem, rfl⟩, ⟨-, rfl⟩, ⟨htail, rfl⟩, rfl⟩ := hline
  obtain rfl := List.self_eq_append_left.mp hstem
  obtain rfl := List.self_eq_append_right.mp htail
  refine ⟨front, back, rfl, ?_, ?_, ?_⟩
  · rw [← spell_flatMap_words, List.append_nil]
  · simp [head, text]
  · rw [← spell_flatMap_words]
    rfl

/-- Where a line tells the target of `HEAD` there is a match. -/
theorem namedBehind_of_head {name : String} (hname : IsWord name.toList)
    (front back : List ReferenceLine) :
    NamedBehind (listing (front ++ head name :: back)).toList (listing front).toList
      name.toList := by
  have hblank : ∀ blank : Char, isBlank blank = true → IsGap [blank] := fun blank h =>
    ⟨List.cons_ne_nil _ _, fun c hc => List.mem_singleton.mp hc ▸ h⟩
  refine ⟨_, '\n' :: (listing back).toList, ?_, .intro (hblank ' ' rfl) hname (hblank '\t' rfl)⟩
  simp [listing, String.toList_join, head, text]

theorem length_listing_lt (front : List ReferenceLine) (line : ReferenceLine)
    (back : List ReferenceLine) :
    (listing front).toList.length < (listing (front ++ line :: back)).toList.length := by
  have hline : 0 < line.text.toList.length := by
    cases line with
    | symbolic target name => simp [text]
    | direct hash name =>
      simp only [text, String.toList_append, List.length_append]
      have htab : 0 < "\t".toList.length := by decide
      omega
  simp only [listing, String.toList_join, List.map_append, List.map_cons, List.flatMap_append,
    List.flatMap_cons, List.length_append]
  omega

theorem length_listing_le (front back : List ReferenceLine) :
    (listing front).toList.length ≤ (listing (front ++ back)).toList.length := by
  simp [listing, String.toList_join]

theorem Proper.isWord_of_head {name : String} (h : (head name).Proper) (hne : name ≠ "") :
    IsWord name.toList := by
  obtain ⟨⟨-, hnoblank⟩, -⟩ := h
  refine ⟨fun hnil => hne (String.toList_eq_nil_iff.mp hnil), fun c hc => hnoblank c ?_⟩
  rw [String.toList_append]
  exact List.mem_append_right _ hc

/-- The branch that is found in a listing is that of the first line that tells the target of
`HEAD`. -/
theorem headTarget?_listing_eq_some_iff {name : String} (hproper : ∀ line ∈ lines, line.Proper) :
    headTarget? (listing lines) = some name ↔
      ∃ front back, lines = front ++ head name :: back ∧ name ≠ "" ∧
        ∀ other, other ≠ "" → head other ∉ front := by
  unfold headTarget?
  rw [Option.map_eq_some_iff]
  constructor
  · rintro ⟨branch, hbranch, rfl⟩
    obtain ⟨before, ⟨matched, rest, htext, hmatch⟩, hfirst⟩ :=
      headTargetChars?_eq_some_iff.mp hbranch
    obtain ⟨front, back, rfl, rfl, -⟩ := whole_line hproper htext hmatch
    refine ⟨front, back, rfl, ?_, fun other hother hmem => ?_⟩
    · exact fun hnil => hmatch.isWord.1 (String.ofList_eq_empty_iff.mp hnil)
    · obtain ⟨front, middle, rfl⟩ := List.append_of_mem hmem
      have hword := (hproper _ (List.mem_append_left _ hmem)).isWord_of_head hother
      have hle := hfirst _ _ (by
        rw [List.append_assoc, List.cons_append]
        exact namedBehind_of_head hword front _)
      have hlt := length_listing_lt front (head other) middle
      omega
  · rintro ⟨front, back, rfl, hne, hnone⟩
    have hhead := hproper (head name) (List.mem_append_right _ List.mem_cons_self)
    have hmatch := namedBehind_of_head (hhead.isWord_of_head hne) front back
    refine ⟨name.toList, headTargetChars?_eq_some_iff.mpr ⟨_, hmatch, ?_⟩, String.ofList_toList⟩
    rintro before branch ⟨matched, rest, htext, hother⟩
    obtain ⟨front', back', hlines, rfl, -⟩ := whole_line hproper htext hother
    rcases List.append_eq_append_iff.mp hlines with ⟨excess, rfl, -⟩ | ⟨excess, rfl, hexcess⟩
    · exact length_listing_le front excess
    · cases excess with
      | nil => rw [List.append_nil]
      | cons line excess =>
        rw [List.cons_append] at hexcess
        obtain ⟨rfl, -⟩ := List.cons.inj hexcess
        refine absurd (List.mem_append_right _ List.mem_cons_self) (hnone (String.ofList branch) ?_)
        exact fun hnil => hother.isWord.1 (String.ofList_eq_empty_iff.mp hnil)

end ReferenceLine

/-! ## The strategy -/

variable {git : Launcher} {host middle after : Host} {remote output : String}
  {lines : List ReferenceLine}

theorem remoteBranch_run (hremote : (remoteName git).run host = (.ok remote, middle))
    (hprints : (git.run ["ls-remote", "--symref", remote, "HEAD"]).run middle =
      (.ok output, after)) :
    (remoteBranch git).run host =
      (match headTarget? output with
        | some branch => .ok branch
        | none =>
          .error (.unexpectedOutput ("git ls-remote --symref " ++ remote ++ " HEAD") output),
        after) := by
  unfold remoteBranch
  rw [HostM.run_bind_ok hremote, HostM.run_bind_ok hprints]
  cases headTarget? output <;> rfl

/-- If Git lists references, the second strategy finds the branch of the first line that tells the
target of `HEAD` to be a branch, and if there is no such line it fails with the listing as it is.
The pattern has no match in the listing but such lines, each up to its end. -/
theorem remoteBranch_first_told (hproper : ∀ line ∈ lines, line.Proper)
    (hremote : (remoteName git).run host = (.ok remote, middle))
    (hprints : (git.run ["ls-remote", "--symref", remote, "HEAD"]).run middle =
      (.ok (ReferenceLine.listing lines), after)) :
    (∀ branch, (remoteBranch git).run host = (.ok branch, after) ↔
      ∃ front back, lines = front ++ .symbolic ("refs/heads/" ++ branch) "HEAD" :: back ∧
        branch ≠ "" ∧
        ∀ other, other ≠ "" → .symbolic ("refs/heads/" ++ other) "HEAD" ∉ front) ∧
    ((∀ branch, branch ≠ "" → .symbolic ("refs/heads/" ++ branch) "HEAD" ∉ lines) →
      (remoteBranch git).run host =
        (.error (.unexpectedOutput ("git ls-remote --symref " ++ remote ++ " HEAD")
          (ReferenceLine.listing lines)), after)) ∧
    ∀ before matched rest branch,
      (ReferenceLine.listing lines).toList = before ++ (matched ++ rest) →
      NamesHead branch matched →
      ∃ front line back, lines = front ++ line :: back ∧
        line = .symbolic ("refs/heads/" ++ String.ofList branch) "HEAD" ∧
        before = (ReferenceLine.listing front).toList ∧ matched ++ ['\n'] = line.text.toList ∧
        rest = '\n' :: (ReferenceLine.listing back).toList := by
  have hrun := remoteBranch_run hremote hprints
  refine ⟨fun branch => ?_, fun hnone => ?_, fun before matched rest branch htext hmatch => ?_⟩
  · refine Iff.trans ?_ (ReferenceLine.headTarget?_listing_eq_some_iff hproper)
    rw [hrun]
    cases headTarget? (ReferenceLine.listing lines) with
    | none =>
      constructor
      · intro h
        cases (Prod.mk.inj h).1
      · intro h
        cases h
    | some found =>
      refine ⟨fun h => congrArg some (Except.ok.inj (Prod.mk.inj h).1), fun h => ?_⟩
      rw [Option.some.inj h]
  · cases hfound : headTarget? (ReferenceLine.listing lines) with
    | none => rw [hrun, hfound]
    | some branch =>
      obtain ⟨front, back, rfl, hne, -⟩ :=
        (ReferenceLine.headTarget?_listing_eq_some_iff hproper).mp hfound
      exact absurd (List.mem_append_right _ List.mem_cons_self) (hnone branch hne)
  · obtain ⟨front, back, hlines, hbefore, hline, hrest⟩ :=
      ReferenceLine.whole_line hproper htext hmatch
    exact ⟨front, _, back, hlines, rfl, hbefore, hline, hrest⟩

/-- A target that ends like the first word of a match and a hash are passed over. -/
theorem remoteBranch_first_told_of_three :
    ((remoteBranch ⟨"/", "/tool", ∅⟩).run (Host.answering [printing "origin/main",
      printing "ref: xref:\trefs/heads/a\n0f\tHEAD\nref: refs/heads/b\tHEAD\n"])).1 = .ok "b" := by
  have hproper : ∀ line ∈ [.symbolic "xref:" "refs/heads/a", .direct "0f" "HEAD",
      .symbolic "refs/heads/b" "HEAD"], ReferenceLine.Proper line := by decide
  have hremote : ((remoteName ⟨"/", "/tool", ∅⟩).run (Host.answering [printing "origin/main",
      printing "ref: xref:\trefs/heads/a\n0f\tHEAD\nref: refs/heads/b\tHEAD\n"])).1 =
        .ok "origin" := by rfl
  have hprints : ((Launcher.run ⟨"/", "/tool", ∅⟩ ["ls-remote", "--symref", "origin", "HEAD"]).run
      ((remoteName ⟨"/", "/tool", ∅⟩).run (Host.answering [printing "origin/main",
        printing "ref: xref:\trefs/heads/a\n0f\tHEAD\nref: refs/heads/b\tHEAD\n"])).2).1 =
          .ok (ReferenceLine.listing [.symbolic "xref:" "refs/heads/a", .direct "0f" "HEAD",
            .symbolic "refs/heads/b" "HEAD"]) := by rfl
  have htold := remoteBranch_first_told hproper (Prod.ext hremote rfl) (Prod.ext hprints rfl)
  refine congrArg Prod.fst ((htold.1 "b").mpr
    ⟨[.symbolic "xref:" "refs/heads/a", .direct "0f" "HEAD"], [], rfl, by decide, ?_⟩)
  intro other _ hmem
  simp at hmem

end RevisionControl.Git
