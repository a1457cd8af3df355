import RevisionControl.Proofs.Text.Lines

/-!
# Proofs: the names of a listing

A listing is read line by line, so what two listings name one after the other is what they name
together. Its names could stand on lines of their own (`Listable`), and nothing but blanks is lost
between them (`visible`). Names that are listed, with line ends of either kind, are the names that
are read.
-/

namespace RevisionControl.Text

variable {text : List Char} {lines : List (List Char)}

/-! ## The characters that are kept -/

/-- The characters of a text that are not blank, in order. -/
def visible (cs : List Char) : List Char := cs.filter (!isBlank ·)

theorem visible_append (a b : List Char) : visible (a ++ b) = visible a ++ visible b :=
  List.filter_append a b

theorem visible_of_allBlank (h : AllBlank text) : visible text = [] := by
  refine List.filter_eq_nil_iff.mpr fun c hc => ?_
  rw [h c hc]
  exact Bool.false_ne_true

theorem visible_trimChars (cs : List Char) : visible (trimChars cs) = visible cs := by
  obtain ⟨left, right, hleft, hright, hpad⟩ := exists_pad cs
  have hsplit : visible cs = visible (left ++ trimChars cs ++ right) := congrArg visible hpad
  rw [hsplit, visible_append, visible_append, visible_of_allBlank hleft,
    visible_of_allBlank hright, List.nil_append, List.append_nil]

/-- A name keeps the visible characters of its line, and a line without a name has none. -/
theorem visible_namesIn (lines : List (List Char)) :
    visible (namesIn lines).flatten = visible lines.flatten := by
  induction lines with
  | nil => rfl
  | cons line more ih =>
    have hone : visible (namesIn [line]).flatten = visible line := by
      unfold namesIn
      rw [List.map_singleton, ← visible_trimChars line]
      by_cases hblank : trimChars line = []
      · rw [hblank]
        rfl
      · rw [List.filter_cons_of_pos (by simpa using hblank), List.filter_nil,
          List.flatten_singleton]
    rw [namesIn_cons, List.flatten_append, visible_append, hone, ih, List.flatten_cons,
      visible_append]

/-- Line ends are blank. -/
theorem Laid.visible_eq (h : Laid lines text) : visible text = visible lines.flatten := by
  induction h with
  | none => rfl
  | last => rw [List.flatten_singleton]
  | @feed line text lines _ _ ih =>
    have hfeed : visible ('\n' :: text) = visible text := rfl
    rw [visible_append, hfeed, ih, List.flatten_cons, visible_append]
  | @returnFeed line text lines _ _ ih =>
    have hreturn : visible ('\r' :: '\n' :: text) = visible text := rfl
    rw [visible_append, hreturn, ih, List.flatten_cons, visible_append]

theorem visible_listedChars (text : List Char) :
    visible (listedChars text).flatten = visible text := by
  rw [(laid_lines text).visible_eq]
  exact visible_namesIn (Text.lines text)

/-! ## Names -/

/-- A name that can stand on a line of its own: it has a character, no blank at its ends and no line
feed. -/
def Listable (name : List Char) : Prop := name ≠ [] ∧ Trimmed name ∧ '\n' ∉ name

instance (name : List Char) : Decidable (Listable name) :=
  inferInstanceAs (Decidable (name ≠ [] ∧ Trimmed name ∧ '\n' ∉ name))

theorem Laid.no_feed (h : Laid lines text) : ∀ line ∈ lines, '\n' ∉ line := by
  induction h with
  | none => exact fun line hmem => absurd hmem List.not_mem_nil
  | last hline => exact List.forall_mem_singleton.mpr hline
  | feed hline _ ih => exact List.forall_mem_cons.mpr ⟨hline, ih⟩
  | returnFeed hline _ ih => exact List.forall_mem_cons.mpr ⟨hline, ih⟩

/-- What is trimmed has no more characters than before. -/
theorem mem_of_mem_trimChars {c : Char} {cs : List Char} (h : c ∈ trimChars cs) : c ∈ cs := by
  obtain ⟨left, right, -, -, hpad⟩ := exists_pad cs
  rw [hpad]
  exact List.mem_append_left right (List.mem_append_right left h)

theorem listable_of_mem {name : List Char} (h : name ∈ listedChars text) : Listable name := by
  obtain ⟨line, hline, rfl, hne⟩ := of_mem_namesIn h
  have hfeed : '\n' ∉ line := (laid_lines text).no_feed line hline
  exact ⟨hne, trimmed_trimChars line, fun hmem => hfeed (mem_of_mem_trimChars hmem)⟩

/-- Names on lines of their own are the names in these lines. -/
theorem namesIn_of_listable {names : List (List Char)} (h : ∀ name ∈ names, Listable name) :
    namesIn names = names := by
  unfold namesIn
  have hmap : names.map trimChars = names := by
    rw [List.map_congr_left fun name hname => (h name hname).2.1.trimChars_eq, List.map_id']
  rw [hmap, List.filter_eq_self]
  intro name hname
  simpa using (h name hname).1

/-! ## Listings one after the other -/

/-- A line feed between two listings keeps their names apart. -/
theorem listedChars_append (a b : List Char) :
    listedChars (a ++ '\n' :: b) = listedChars a ++ listedChars b := by
  have hlaid : ∀ {lines text}, Laid lines text →
      listedChars (text ++ '\n' :: b) = namesIn lines ++ listedChars b := by
    intro lines text h
    induction h with
    | none => exact listedChars_append_feed List.not_mem_nil
    | last hline => exact listedChars_append_feed hline
    | @feed line text lines hline _ ih =>
      rw [List.append_assoc, List.cons_append, listedChars_append_feed hline, ih,
        ← List.append_assoc, ← namesIn_cons]
    | @returnFeed line text lines hline _ ih =>
      rw [List.append_assoc, List.cons_append, List.cons_append,
        listedChars_append_returnFeed hline, ih, ← List.append_assoc, ← namesIn_cons]
  exact hlaid (laid_lines a)

/-! ## Listing names -/

/-- Where a line ends, with or without a carriage return. -/
def IsLineEnd (lineEnd : List Char) : Prop := lineEnd = ['\n'] ∨ lineEnd = ['\r', '\n']

theorem laid_line {lineEnd line : List Char} (hend : IsLineEnd lineEnd) (hline : '\n' ∉ line)
    (h : Laid lines text) : Laid (line :: lines) (line ++ lineEnd ++ text) := by
  rw [List.append_assoc]
  rcases hend with rfl | rfl
  · exact .feed hline h
  · exact .returnFeed hline h

/-- Names that are joined with line ends are laid out in lines, whether the last one has an end or
not. -/
theorem laid_intercalate {lineEnd last : List Char} (hend : IsLineEnd lineEnd)
    (hlast : last = [] ∨ IsLineEnd last) {name : List Char} {more : List (List Char)}
    (h : ∀ line ∈ name :: more, Listable line) :
    Laid (name :: more) (lineEnd.intercalate (name :: more) ++ last) := by
  induction more generalizing name with
  | nil =>
    obtain ⟨hne, -, hfeed⟩ := h name List.mem_cons_self
    rw [List.intercalate_singleton]
    rcases hlast with rfl | hlast
    · rw [List.append_nil]
      exact .last hfeed hne
    · have hlaid := laid_line hlast hfeed .none
      rwa [List.append_nil] at hlaid
  | cons next more ih =>
    obtain ⟨-, -, hfeed⟩ := h name List.mem_cons_self
    rw [List.intercalate_cons_cons, List.append_assoc]
    exact laid_line hend hfeed (ih fun line hline => h line (List.mem_cons_of_mem _ hline))

theorem listedChars_intercalate {lineEnd last : List Char} (hend : IsLineEnd lineEnd)
    (hlast : last = [] ∨ IsLineEnd last) {names : List (List Char)}
    (h : ∀ name ∈ names, Listable name) :
    listedChars (lineEnd.intercalate names ++ last) = names := by
  cases names with
  | nil => rcases hlast with rfl | rfl | rfl <;> rfl
  | cons name more =>
    rw [listedChars_of_laid (laid_intercalate hend hlast h), namesIn_of_listable h]

/-! ## Listings as texts -/

theorem map_toList_listedNames (s : String) :
    (listedNames s).map String.toList = listedChars s.toList := by
  have hsame : String.toList ∘ String.ofList = id := funext fun _ => String.toList_ofList
  unfold listedNames
  rw [List.map_map, hsame, List.map_id]

theorem listable_of_mem_listedNames {s name : String} (h : name ∈ listedNames s) :
    Listable name.toList := by
  have hchars : name.toList ∈ (listedNames s).map String.toList := List.mem_map_of_mem h
  rw [map_toList_listedNames] at hchars
  exact listable_of_mem hchars

theorem listedNames_append (a b : String) :
    listedNames (a ++ "\n" ++ b) = listedNames a ++ listedNames b := by
  have hfeed : "\n".toList = ['\n'] := rfl
  unfold listedNames
  rw [String.toList_append, String.toList_append, hfeed, List.append_assoc, List.singleton_append,
    listedChars_append, List.map_append]

theorem listedNames_intercalate {lineEnd last : String} (hend : IsLineEnd lineEnd.toList)
    (hlast : last.toList = [] ∨ IsLineEnd last.toList) {names : List String}
    (h : ∀ name ∈ names, Listable name.toList) :
    listedNames (lineEnd.intercalate names ++ last) = names := by
  have hchars : ∀ chars ∈ names.map String.toList, Listable chars :=
    List.forall_mem_map.mpr h
  have hsame : String.ofList ∘ String.toList = id := funext fun _ => String.ofList_toList
  unfold listedNames
  rw [String.toList_append, String.toList_intercalate,
    listedChars_intercalate hend hlast hchars, List.map_map, hsame, List.map_id]

theorem isLineEnd_of_mem {lineEnd : String} (h : lineEnd ∈ ["\n", "\r\n"]) :
    IsLineEnd lineEnd.toList := by
  rcases List.mem_cons.mp h with rfl | h
  · exact Or.inl rfl
  · rw [List.mem_singleton.mp h]
    exact Or.inr rfl

/-- The names of a listing are trimmed, have a character and no line feed, and lose nothing but
blanks: the visible characters of the listing, in order, are those of its names. What two listings
name one after the other is what they name together. Names that could stand on lines of their own,
joined with line ends of either kind, are the names of the text, whether its last line has an end or
not; so the names of any listing are found again when they are listed in this way. -/
theorem listing_keeps_names :
    (∀ s : String, (∀ name ∈ listedNames s, Listable name.toList) ∧
      visible ((listedNames s).map String.toList).flatten = visible s.toList) ∧
    (∀ a b : String, listedNames (a ++ "\n" ++ b) = listedNames a ++ listedNames b) ∧
    ∀ lineEnd ∈ ["\n", "\r\n"], ∀ last ∈ ["", "\n", "\r\n"],
      (∀ names : List String, (∀ name ∈ names, Listable name.toList) →
        listedNames (lineEnd.intercalate names ++ last) = names) ∧
      ∀ s : String, listedNames (lineEnd.intercalate (listedNames s) ++ last) = listedNames s := by
  refine ⟨fun s => ⟨fun name => listable_of_mem_listedNames, ?_⟩, listedNames_append, ?_⟩
  · rw [map_toList_listedNames]
    exact visible_listedChars s.toList
  · intro lineEnd hend last hlast
    have hlast : last.toList = [] ∨ IsLineEnd last.toList := by
      rcases List.mem_cons.mp hlast with rfl | hlast
      · exact Or.inl rfl
      · exact Or.inr (isLineEnd_of_mem hlast)
    have hjoined : ∀ names : List String, (∀ name ∈ names, Listable name.toList) →
        listedNames (lineEnd.intercalate names ++ last) = names :=
      fun names => listedNames_intercalate (isLineEnd_of_mem hend) hlast
    exact ⟨hjoined, fun s => hjoined _ fun name => listable_of_mem_listedNames⟩

/-- A carriage return inside a name is part of it, and one before a line feed is not. -/
theorem listing_keeps_inner_return :
    (∀ name ∈ ["a\rb", "c d"], Listable name.toList) ∧
      listedNames "a\rb\r\nc d\r\n" = ["a\rb", "c d"] := by
  have hnames : ∀ name ∈ ["a\rb", "c d"], Listable name.toList := by decide
  obtain ⟨-, -, hlisted⟩ := listing_keeps_names
  exact ⟨hnames, (hlisted "\r\n" (by decide) "\r\n" (by decide)).1 ["a\rb", "c d"] hnames⟩

end RevisionControl.Text
