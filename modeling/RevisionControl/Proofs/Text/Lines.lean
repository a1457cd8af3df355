import Mathlib.Data.List.Basic
import Mathlib.Data.List.TakeWhile
import RevisionControl.Text.Lines

/-!
# Proofs: trimming and lines

Trimming removes padding and leaves a text that neither starts nor ends with a blank. A text is laid
out in lines (`Laid`) when each of them is followed by a line end of either kind, the last perhaps
by none; cutting a text into lines finds such a layout, and every layout of a text has the same
names.
-/

namespace RevisionControl.Text

/-! ## Trimming -/

/-- A text has nothing but blanks in it. -/
def AllBlank (cs : List Char) : Prop := ∀ c ∈ cs, isBlank c = true

/-- A text neither starts nor ends with a blank. -/
def Trimmed (cs : List Char) : Prop :=
  (∀ c ∈ cs.head?, isBlank c = false) ∧ ∀ c ∈ cs.getLast?, isBlank c = false

variable {cs left right middle a b : List Char}

instance : Decidable (AllBlank cs) :=
  List.decidableBAll (isBlank · = true) cs

instance : Decidable (Trimmed cs) :=
  @instDecidableAnd _ _ (Option.decidableForallMem _) (Option.decidableForallMem _)

theorem AllBlank.dropWhile (h : AllBlank cs) : cs.dropWhile isBlank = [] :=
  List.dropWhile_eq_nil_iff.mpr h

theorem trimEnd_append (h : AllBlank right) : trimEnd (cs ++ right) = trimEnd cs := by
  unfold trimEnd
  rw [List.reverse_append, List.dropWhile_append_of_pos]
  intro c hc
  exact h c (List.mem_reverse.mp hc)

theorem trimChars_of_allBlank (h : AllBlank cs) : trimChars cs = [] := by
  unfold trimChars
  rw [h.dropWhile]
  rfl

/-- Padding makes no difference to what is left. -/
theorem trimChars_pad (hleft : AllBlank left) (hright : AllBlank right) :
    trimChars (left ++ cs ++ right) = trimChars cs := by
  unfold trimChars
  rw [List.append_assoc, List.dropWhile_append_of_pos hleft, List.dropWhile_append]
  split
  · rename_i hempty
    rw [List.isEmpty_iff.mp hempty, hright.dropWhile]
  · exact trimEnd_append hright

theorem trimChars_append (hright : AllBlank right) : trimChars (cs ++ right) = trimChars cs :=
  @trimChars_pad cs [] right (fun _ hc => absurd hc List.not_mem_nil) hright

theorem trimEnd_eq_self (h : ∀ c ∈ cs.getLast?, isBlank c = false) : trimEnd cs = cs := by
  unfold trimEnd
  have hreverse : cs.reverse.dropWhile isBlank = cs.reverse := by
    cases hcs : cs.reverse with
    | nil => rfl
    | cons c rest =>
      have hc : c ∈ cs.getLast? := by
        rw [List.getLast?_eq_head?_reverse, hcs]
        rfl
      rw [List.dropWhile_cons_of_neg]
      rw [h c hc]
      exact Bool.false_ne_true
  rw [hreverse, List.reverse_reverse]

theorem Trimmed.trimChars_eq (h : Trimmed cs) : trimChars cs = cs := by
  unfold trimChars
  have hfront : cs.dropWhile isBlank = cs := by
    cases cs with
    | nil => rfl
    | cons c rest =>
      rw [List.dropWhile_cons_of_neg]
      rw [h.1 c rfl]
      exact Bool.false_ne_true
  rw [hfront, trimEnd_eq_self h.2]

/-- A line break after a trimmed text is trimmed off. -/
theorem trim_append {text lineBreak : String} (h : Trimmed text.toList)
    (hbreak : AllBlank lineBreak.toList) : trim (text ++ lineBreak) = text := by
  unfold trim
  rw [String.toList_append, trimChars_append hbreak, h.trimChars_eq, String.ofList_toList]

/-- What ends a text is what is left of its end. -/
theorem getLast?_trimEnd {c : Char} (h : c ∈ (trimEnd cs).getLast?) : isBlank c = false := by
  unfold trimEnd at h
  rw [List.getLast?_reverse] at h
  have hnot := List.head?_dropWhile_not isBlank cs.reverse
  rw [Option.mem_def.mp h] at hnot
  exact hnot

theorem trimEnd_isPrefix (cs : List Char) : trimEnd cs <+: cs := by
  unfold trimEnd
  have hsuffix := List.reverse_prefix.mpr (List.dropWhile_suffix (l := cs.reverse) isBlank)
  rwa [List.reverse_reverse] at hsuffix

theorem trimmed_trimChars (cs : List Char) : Trimmed (trimChars cs) := by
  refine ⟨fun c hc => ?_, fun c hc => getLast?_trimEnd hc⟩
  unfold trimChars at hc
  obtain ⟨rest, hrest⟩ := trimEnd_isPrefix (cs.dropWhile isBlank)
  have hhead : (cs.dropWhile isBlank).head? = some c := by
    rw [← hrest, List.head?_append, Option.mem_def.mp hc]
    rfl
  have hnot := List.head?_dropWhile_not isBlank cs
  rw [hhead] at hnot
  exact hnot

/-- What is trimmed off is padding. -/
theorem exists_pad (cs : List Char) :
    ∃ left right, AllBlank left ∧ AllBlank right ∧ cs = left ++ trimChars cs ++ right := by
  have htail : ∀ text : List Char, ∃ right, AllBlank right ∧ text = trimEnd text ++ right := by
    intro text
    refine ⟨(text.reverse.takeWhile isBlank).reverse, fun c hc => ?_, ?_⟩
    · exact List.all_eq_true.mp List.all_takeWhile c (List.mem_reverse.mp hc)
    · unfold trimEnd
      rw [← List.reverse_append, List.takeWhile_append_dropWhile, List.reverse_reverse]
  obtain ⟨right, hright, hsplit⟩ := htail (cs.dropWhile isBlank)
  refine ⟨cs.takeWhile isBlank, right, fun c hc => ?_, hright, ?_⟩
  · exact List.all_eq_true.mp List.all_takeWhile c hc
  · unfold trimChars
    rw [List.append_assoc, ← hsplit, List.takeWhile_append_dropWhile]

/-- Two trimmed texts enclose a trimmed one. -/
theorem Trimmed.enclose (ha : Trimmed a) (hane : a ≠ []) (hb : Trimmed b) (hbne : b ≠ []) :
    Trimmed (a ++ middle ++ b) := by
  constructor
  · intro c hc
    rw [List.append_assoc, List.head?_append_of_ne_nil _ hane] at hc
    exact ha.1 c hc
  · intro c hc
    rw [List.getLast?_append_of_ne_nil _ hbne] at hc
    exact hb.2 c hc

/-! ## Lines -/

/-- A text is laid out in lines: after each stands a line feed, perhaps with a carriage return
before it, and after the last perhaps nothing. -/
inductive Laid : List (List Char) → List Char → Prop where
  /-- There are no lines. -/
  | none : Laid [] []
  /-- The last line has no end. -/
  | last {line : List Char} (hline : '\n' ∉ line) (hne : line ≠ []) : Laid [line] line
  /-- A line ends with a line feed. -/
  | feed {line text : List Char} {lines : List (List Char)} (hline : '\n' ∉ line)
      (h : Laid lines text) : Laid (line :: lines) (line ++ '\n' :: text)
  /-- A line ends with a carriage return and a line feed. -/
  | returnFeed {line text : List Char} {lines : List (List Char)} (hline : '\n' ∉ line)
      (h : Laid lines text) : Laid (line :: lines) (line ++ '\r' :: '\n' :: text)

variable {line rest text : List Char} {more : List (List Char)}

theorem not_mem_cons {c : Char} (hc : c ≠ '\n') (hline : '\n' ∉ line) : '\n' ∉ c :: line := by
  intro hmem
  rcases List.mem_cons.mp hmem with rfl | hmem
  · exact hc rfl
  · exact hline hmem

theorem Laid.cons {c : Char} (hc : c ≠ '\n') (h : Laid (line :: more) text) :
    Laid ((c :: line) :: more) (c :: text) := by
  cases h with
  | last hline hne => exact .last (not_mem_cons hc hline) (List.cons_ne_nil c _)
  | feed hline h => exact .feed (not_mem_cons hc hline) h
  | returnFeed hline h => exact .returnFeed (not_mem_cons hc hline) h

/-- A text is laid out in the lines that it is cut into. -/
theorem laid_lines (text : List Char) : Laid (lines text) text := by
  induction text using lines.induct with
  | case1 => exact .none
  | case2 rest ih => exact Laid.feed List.not_mem_nil ih
  | case3 rest ih => exact Laid.returnFeed List.not_mem_nil ih
  | case4 c rest hfeed hreturn hnone ih =>
    rw [lines.eq_4 c rest hfeed hreturn, hnone]
    rw [hnone] at ih
    cases ih
    exact .last (not_mem_cons hfeed List.not_mem_nil) (List.cons_ne_nil c [])
  | case5 c rest hfeed hreturn line more hlines ih =>
    rw [lines.eq_4 c rest hfeed hreturn, hlines]
    rw [hlines] at ih
    exact ih.cons hfeed

/-- Only a carriage return before a line feed belongs to the end of a line. -/
theorem lines_append_feed (hline : '\n' ∉ line) (rest : List Char) :
    ∃ first, lines (line ++ '\n' :: rest) = first :: lines rest ∧
      (line = first ∨ line = first ++ ['\r']) := by
  induction line with
  | nil => exact ⟨[], rfl, Or.inl rfl⟩
  | cons c line ih =>
    have hfeed : c ≠ '\n' := fun h => hline (h ▸ List.mem_cons_self)
    by_cases hreturn : c = '\r' ∧ line = []
    · obtain ⟨rfl, rfl⟩ := hreturn
      exact ⟨[], rfl, Or.inr rfl⟩
    · obtain ⟨first, hlines, hfirst⟩ := ih fun h => hline (List.mem_cons_of_mem c h)
      refine ⟨c :: first, ?_, ?_⟩
      · rw [List.cons_append, lines.eq_4 c _ hfeed, hlines]
        intro more hc hmore
        -- The line feed would be one of the line, or the line would be a lone carriage return.
        cases line with
        | nil => exact hreturn ⟨hc, rfl⟩
        | cons d line =>
          obtain ⟨rfl, -⟩ := List.cons.inj hmore
          exact hline (List.mem_cons_of_mem c List.mem_cons_self)
      · rcases hfirst with rfl | rfl
        · exact Or.inl rfl
        · exact Or.inr rfl

theorem lines_of_no_feed (hline : '\n' ∉ line) (hne : line ≠ []) : lines line = [line] := by
  induction line with
  | nil => exact absurd rfl hne
  | cons c line ih =>
    have hfeed : c ≠ '\n' := fun h => hline (h ▸ List.mem_cons_self)
    have hrest : '\n' ∉ line := fun h => hline (List.mem_cons_of_mem c h)
    rw [lines.eq_4 c line hfeed fun more _ hmore => hrest (hmore ▸ List.mem_cons_self)]
    cases line with
    | nil => rfl
    | cons d line => rw [ih hrest (List.cons_ne_nil d line)]

/-! ## Names -/

/-- The names in some lines: the lines, trimmed, that are not blank. -/
def namesIn (lines : List (List Char)) : List (List Char) :=
  (lines.map trimChars).filter (!·.isEmpty)

theorem namesIn_append (lines more : List (List Char)) :
    namesIn (lines ++ more) = namesIn lines ++ namesIn more := by
  unfold namesIn
  rw [List.map_append, List.filter_append]

theorem namesIn_cons (line : List Char) (more : List (List Char)) :
    namesIn (line :: more) = namesIn [line] ++ namesIn more :=
  namesIn_append [line] more

theorem namesIn_pad (hleft : AllBlank left) (hright : AllBlank right) :
    namesIn [left ++ line ++ right] = namesIn [line] := by
  unfold namesIn
  rw [List.map_singleton, List.map_singleton, trimChars_pad hleft hright]

theorem namesIn_of_allBlank (h : AllBlank line) : namesIn [line] = [] := by
  unfold namesIn
  rw [List.map_singleton, trimChars_of_allBlank h]
  rfl

/-- A carriage return before a line feed makes no difference to the name. -/
theorem namesIn_return (line : List Char) : namesIn [line ++ ['\r']] = namesIn [line] := by
  have hblank : AllBlank ['\r'] := by
    intro c hc
    rw [List.mem_singleton.mp hc]
    rfl
  unfold namesIn
  rw [List.map_singleton, List.map_singleton, trimChars_append hblank]

/-- A name is what is left of a line. -/
theorem of_mem_namesIn {name : List Char} {lines : List (List Char)} (h : name ∈ namesIn lines) :
    ∃ line ∈ lines, name = trimChars line ∧ name ≠ [] := by
  obtain ⟨hmem, hne⟩ := List.mem_filter.mp h
  obtain ⟨line, hline, rfl⟩ := List.mem_map.mp hmem
  refine ⟨line, hline, rfl, fun hnil => ?_⟩
  rw [hnil] at hne
  cases hne

theorem listedChars_append_feed (hline : '\n' ∉ line) :
    listedChars (line ++ '\n' :: rest) = namesIn [line] ++ listedChars rest := by
  obtain ⟨first, hlines, hfirst⟩ := lines_append_feed hline rest
  have hname : namesIn [line] = namesIn [first] := by
    rcases hfirst with rfl | rfl
    · rfl
    · exact namesIn_return first
  show namesIn (lines (line ++ '\n' :: rest)) = _
  rw [hlines, namesIn_cons, hname]
  rfl

theorem listedChars_append_returnFeed (hline : '\n' ∉ line) :
    listedChars (line ++ '\r' :: '\n' :: rest) = namesIn [line] ++ listedChars rest := by
  have hreturn : '\n' ∉ line ++ ['\r'] := by
    intro hmem
    rcases List.mem_append.mp hmem with hmem | hmem
    · exact hline hmem
    · exact absurd (List.mem_singleton.mp hmem) (by decide)
  rw [List.append_cons, listedChars_append_feed hreturn, namesIn_return]

/-- The names of a listing are those in its lines, whichever line ends it has. -/
theorem listedChars_of_laid {lines : List (List Char)} (h : Laid lines text) :
    listedChars text = namesIn lines := by
  induction h with
  | none => rfl
  | @last line hline hne =>
    show namesIn (Text.lines line) = _
    rw [lines_of_no_feed hline hne]
  | @feed line text lines hline _ ih =>
    rw [listedChars_append_feed hline, ih, ← namesIn_cons]
  | @returnFeed line text lines hline _ ih =>
    rw [listedChars_append_returnFeed hline, ih, ← namesIn_cons]

end RevisionControl.Text
