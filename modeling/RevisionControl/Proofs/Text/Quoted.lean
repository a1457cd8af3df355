import Mathlib.Data.List.Basic
import RevisionControl.Text.Quoted

/-!
# Proofs: quoted texts are read back

Which characters are shown as themselves is a matter of a table. Everything here holds for any set
of shown characters: a quoted character is read back whatever follows it, so no quoted text is the
start of another, and a list of quoted texts falls into its members in one way only.
-/

namespace RevisionControl.Text

/-! ## Quoting with any set of shown characters -/

section

variable (shown : Char → Bool)

/-- A character inside quotes, if a set of characters is shown as themselves. -/
def quoteCharBy (c : Char) : List Char :=
  if c = '"' then ['\\', '"']
  else if c = '\\' then ['\\', '\\']
  else if c = '\t' then ['\\', 't']
  else if c = '\r' then ['\\', 'r']
  else if c = '\n' then ['\\', 'n']
  else if c = '\x00' then ['\\', '0']
  else if shown c then [c]
  else numberEscape c

/-- The characters of a quoted text. -/
def quoteCharsBy (cs : List Char) : List Char :=
  '"' :: (cs.flatMap (quoteCharBy shown) ++ ['"'])

/-- A quoted text. -/
def quoteBy (s : String) : String := String.ofList (quoteCharsBy shown s.toList)

/-- A list of quoted texts. -/
def quoteListBy (items : List String) : String :=
  "[" ++ ", ".intercalate (items.map (quoteBy shown)) ++ "]"

end

theorem quoteBy_isPrintable : quoteBy isPrintable = quote := rfl

theorem quoteListBy_isPrintable : quoteListBy isPrintable = quoteList := rfl

variable {shown : Char → Bool} {c d : Char} {cs ds rest rest' : List Char} {s s' : String}
  {items items' : List String}

/-! ## Reading -/

/-- The value of a lower-case hexadecimal digit. -/
def hexValue (c : Char) : Nat :=
  if c.toNat < 'a'.toNat then c.toNat - '0'.toNat else c.toNat - 'a'.toNat + 10

/-- The number that hexadecimal digits say. -/
def hexadecimal (cs : List Char) : Nat :=
  cs.foldl (fun n c => 16 * n + hexValue c) 0

theorem hexValue_digitChar : ∀ n < 16, hexValue n.digitChar = n := by decide

theorem hexadecimal_toDigits (n : Nat) : hexadecimal (Nat.toDigits 16 n) = n := by
  induction n using Nat.strongRecOn with
  | ind n ih =>
    rw [Nat.toDigits_eq_if (by decide)]
    by_cases hlt : n < 16
    · rw [if_pos hlt]
      show 16 * 0 + hexValue n.digitChar = n
      rw [hexValue_digitChar n hlt, Nat.mul_zero, Nat.zero_add]
    · have hfront : hexadecimal (Nat.toDigits 16 (n / 16)) = n / 16 := ih _ (by omega)
      have hlast : hexValue (n % 16).digitChar = n % 16 := hexValue_digitChar _ (by omega)
      rw [if_neg hlt]
      unfold hexadecimal at hfront ⊢
      rw [List.foldl_append, hfront]
      show 16 * (n / 16) + hexValue (n % 16).digitChar = n
      omega

/-- By induction on the number, a digit at a time. -/
theorem mem_toDigits_sixteen {n : Nat} (h : c ∈ Nat.toDigits 16 n) :
    ∃ digit < 16, c = Nat.digitChar digit := by
  induction n using Nat.strongRecOn with
  | ind n ih =>
    rw [Nat.toDigits_eq_if (by decide)] at h
    by_cases hlt : n < 16
    · rw [if_pos hlt] at h
      exact ⟨n, hlt, List.mem_singleton.mp h⟩
    · rw [if_neg hlt] at h
      rcases List.mem_append.mp h with hfront | hlast
      · exact ih (n / 16) (by omega) hfront
      · exact ⟨n % 16, by omega, List.mem_singleton.mp hlast⟩

/-- The characters that a backslash and a letter stand for, each with its letter. -/
def letterEscapes : List (Char × Char) :=
  [('"', '"'), ('\\', '\\'), ('\t', 't'), ('\r', 'r'), ('\n', 'n'), ('\x00', '0')]

/-- The character of an escape, without its backslash, and what follows. -/
def readEscape : List Char → Option (Char × List Char)
  | '"' :: rest => some ('"', rest)
  | '\\' :: rest => some ('\\', rest)
  | 't' :: rest => some ('\t', rest)
  | 'r' :: rest => some ('\r', rest)
  | 'n' :: rest => some ('\n', rest)
  | '0' :: rest => some ('\x00', rest)
  | 'u' :: '\x7b' :: rest =>
    some (Char.ofNat (hexadecimal (rest.takeWhile (· != '\x7d'))),
      (rest.dropWhile (· != '\x7d')).tail)
  | _ => none

/-- The character that a text inside quotes starts with, and what follows. -/
def readChar : List Char → Option (Char × List Char)
  | [] => none
  | '\\' :: cs => readEscape cs
  | c :: cs => some (c, cs)

theorem readChar_plain (h : c ≠ '\\') : readChar (c :: rest) = some (c, rest) := by
  unfold readChar
  split
  · rename_i heq
    cases heq
  · rename_i heq
    exact absurd (List.cons.inj heq).1 h
  · rename_i heq
    cases heq
    rfl

/-- The number of an escape ends at the closing brace, which is no digit. -/
theorem readChar_numberEscape : readChar (numberEscape c ++ rest) = some (c, rest) := by
  have hdigits : ∀ d ∈ Nat.toDigits 16 c.toNat, (d != '\x7d') = true := by
    intro d hd
    obtain ⟨digit, hlt, rfl⟩ := mem_toDigits_sixteen hd
    have hall : ∀ n < 16, (Nat.digitChar n != '\x7d') = true := by decide
    exact hall digit hlt
  have hsplit : numberEscape c ++ rest =
      '\\' :: 'u' :: '\x7b' :: (Nat.toDigits 16 c.toNat ++ '\x7d' :: rest) := by
    simp [numberEscape]
  rw [hsplit]
  show some (Char.ofNat (hexadecimal (List.takeWhile _ _)), (List.dropWhile _ _).tail) = _
  rw [List.takeWhile_append_of_pos hdigits, List.dropWhile_append_of_pos hdigits,
    List.takeWhile_cons_of_neg (by decide), List.dropWhile_cons_of_neg (by decide),
    List.append_nil, hexadecimal_toDigits, Char.ofNat_toNat, List.tail_cons]

/-- What a quoted character can be. -/
theorem quoteCharBy_cases (shown : Char → Bool) (c : Char) :
    (∃ letter, (c, letter) ∈ letterEscapes ∧ quoteCharBy shown c = ['\\', letter]) ∨
      (shown c = true ∧ c ≠ '\\' ∧ quoteCharBy shown c = [c]) ∨
      quoteCharBy shown c = numberEscape c := by
  unfold quoteCharBy
  split
  · exact Or.inl ⟨'"', by simp [letterEscapes, *], rfl⟩
  split
  · exact Or.inl ⟨'\\', by simp [letterEscapes, *], rfl⟩
  split
  · exact Or.inl ⟨'t', by simp [letterEscapes, *], rfl⟩
  split
  · exact Or.inl ⟨'r', by simp [letterEscapes, *], rfl⟩
  split
  · exact Or.inl ⟨'n', by simp [letterEscapes, *], rfl⟩
  split
  · exact Or.inl ⟨'0', by simp [letterEscapes, *], rfl⟩
  split
  · rename_i hslash _ _ _ _ hshown
    exact Or.inr (Or.inl ⟨hshown, hslash, rfl⟩)
  · exact Or.inr (Or.inr rfl)

theorem readChar_quoteChar : readChar (quoteCharBy shown c ++ rest) = some (c, rest) := by
  rcases quoteCharBy_cases shown c with ⟨letter, hletter, hquoted⟩ | ⟨-, hslash, hquoted⟩ | hquoted
  · have hread : ∀ escape ∈ letterEscapes, readEscape (escape.2 :: rest) = some (escape.1, rest) := by
      simp [letterEscapes, readEscape]
    rw [hquoted]
    exact hread _ hletter
  · rw [hquoted]
    exact readChar_plain hslash
  · rw [hquoted]
    exact readChar_numberEscape

/-! ## One reading only -/

theorem quoteCharBy_append_inj
    (h : quoteCharBy shown c ++ rest = quoteCharBy shown d ++ rest') : c = d ∧ rest = rest' := by
  have hread : some (c, rest) = some (d, rest') := by
    rw [← @readChar_quoteChar shown, ← @readChar_quoteChar shown, h]
  exact Prod.mk.inj (Option.some.inj hread)

/-- No quoted character starts with a quote. -/
theorem quoteCharBy_append_ne : quoteCharBy shown c ++ rest ≠ '"' :: rest' := by
  intro h
  have hread := @readChar_quoteChar shown c rest
  rw [h, readChar_plain (by decide)] at hread
  obtain ⟨hc, -⟩ := Prod.mk.inj (Option.some.inj hread)
  rw [← hc] at h
  exact absurd (List.cons.inj h).1 (by decide)

/-- By induction on the text: the first quote that is not escaped ends it. -/
theorem quoteCharsBy_append_inj
    (h : quoteCharsBy shown cs ++ rest = quoteCharsBy shown ds ++ rest') :
    cs = ds ∧ rest = rest' := by
  have hbody : cs.flatMap (quoteCharBy shown) ++ '"' :: rest =
      ds.flatMap (quoteCharBy shown) ++ '"' :: rest' := by
    simpa [quoteCharsBy] using h
  clear h
  induction cs generalizing ds with
  | nil =>
    cases ds with
    | nil => exact ⟨rfl, (List.cons.inj hbody).2⟩
    | cons d ds =>
      rw [List.flatMap_cons, List.append_assoc] at hbody
      exact absurd hbody.symm quoteCharBy_append_ne
  | cons c cs ih =>
    cases ds with
    | nil =>
      rw [List.flatMap_cons, List.append_assoc] at hbody
      exact absurd hbody quoteCharBy_append_ne
    | cons d ds =>
      rw [List.flatMap_cons, List.append_assoc, List.flatMap_cons, List.append_assoc] at hbody
      obtain ⟨hc, hbody⟩ := quoteCharBy_append_inj hbody
      obtain ⟨hcs, hrest⟩ := ih hbody
      exact ⟨by rw [hc, hcs], hrest⟩

theorem quoteBy_inj (h : quoteBy shown s = quoteBy shown s') : s = s' := by
  have hchars : quoteCharsBy shown s.toList ++ [] = quoteCharsBy shown s'.toList ++ [] := by
    rw [List.append_nil, List.append_nil]
    exact String.ofList_inj.mp h
  exact String.toList_inj.mp (quoteCharsBy_append_inj hchars).1

/-- What follows a member of a list: its end, or another member. -/
def furtherItems (shown : Char → Bool) : List String → List Char
  | [] => [']']
  | item :: more => ',' :: ' ' :: (quoteCharsBy shown item.toList ++ furtherItems shown more)

theorem toList_quoteListBy_cons (item : String) (items : List String) :
    (quoteListBy shown (item :: items)).toList =
      '[' :: (quoteCharsBy shown item.toList ++ furtherItems shown items) := by
  have hjoined : (", ".intercalate ((item :: items).map (quoteBy shown))).toList ++ [']'] =
      quoteCharsBy shown item.toList ++ furtherItems shown items := by
    induction items generalizing item with
    | nil => simp [quoteBy, furtherItems]
    | cons next items ih =>
      rw [List.map_cons, List.map_cons, String.intercalate_cons_cons, ← List.map_cons,
        String.toList_append, String.toList_append, List.append_assoc, List.append_assoc, ih next]
      simp [quoteBy, furtherItems]
  unfold quoteListBy
  rw [String.toList_append, String.toList_append, ← hjoined]
  simp

theorem furtherItems_inj (h : furtherItems shown items = furtherItems shown items') :
    items = items' := by
  induction items generalizing items' with
  | nil =>
    cases items' with
    | nil => rfl
    | cons item' more' => exact absurd (List.cons.inj h).1 (by decide)
  | cons item more ih =>
    cases items' with
    | nil => exact absurd (List.cons.inj h).1 (by decide)
    | cons item' more' =>
      obtain ⟨hitem, hmore⟩ := quoteCharsBy_append_inj (List.cons.inj (List.cons.inj h).2).2
      rw [String.toList_inj.mp hitem, ih hmore]

theorem quoteListBy_inj (h : quoteListBy shown items = quoteListBy shown items') :
    items = items' := by
  have hempty : (quoteListBy shown []).toList = ['[', ']'] := by simp [quoteListBy]
  have hchars := congrArg String.toList h
  cases items with
  | nil =>
    cases items' with
    | nil => rfl
    | cons item' more' =>
      rw [hempty, toList_quoteListBy_cons] at hchars
      exact absurd (List.cons.inj (List.cons.inj hchars).2).1 (by decide)
  | cons item more =>
    cases items' with
    | nil =>
      rw [hempty, toList_quoteListBy_cons] at hchars
      exact absurd (List.cons.inj (List.cons.inj hchars).2).1 (by decide)
    | cons item' more' =>
      rw [toList_quoteListBy_cons, toList_quoteListBy_cons] at hchars
      obtain ⟨hitem, hmore⟩ := quoteCharsBy_append_inj (List.cons.inj hchars).2
      rw [String.toList_inj.mp hitem, furtherItems_inj hmore]

/-! ## The characters of quoted texts -/

/-- A visible ASCII character, or the space. -/
def IsPlain (c : Char) : Prop := 0x20 ≤ c.toNat ∧ c.toNat ≤ 0x7e

instance : DecidablePred IsPlain := fun _ => instDecidableAnd

/-- The characters of a given text are checked one after the other. -/
theorem plain_of_all {cs : List Char} (h : (cs.all fun c => decide (IsPlain c)) = true) :
    ∀ c ∈ cs, IsPlain c :=
  fun c hc => of_decide_eq_true (List.all_eq_true.mp h c hc)

theorem plain_of_mem_numberEscape (h : d ∈ numberEscape c) : IsPlain d := by
  have hsplit : d ∈ ['\\', 'u', '\x7b', '\x7d'] ∨ d ∈ Nat.toDigits 16 c.toNat := by
    simp only [numberEscape, List.mem_cons, List.mem_append, List.not_mem_nil, or_false] at h ⊢
    tauto
  rcases hsplit with hframe | hdigit
  · exact plain_of_all (by decide) d hframe
  · obtain ⟨digit, hlt, rfl⟩ := mem_toDigits_sixteen hdigit
    have hall : ∀ n < 16, IsPlain (Nat.digitChar n) := by decide
    exact hall digit hlt

/-- Escapes are spelled in plain characters. -/
theorem mem_quoteCharBy (h : d ∈ quoteCharBy shown c) : IsPlain d ∨ shown d = true := by
  rcases quoteCharBy_cases shown c with ⟨letter, hletter, hquoted⟩ | ⟨hshown, -, hquoted⟩ | hquoted
  · rw [hquoted] at h
    have hletters : ∀ e ∈ letterEscapes.map Prod.snd, IsPlain e := plain_of_all (by decide)
    rcases List.mem_cons.mp h with rfl | h
    · exact Or.inl (by decide)
    · rw [List.mem_singleton.mp h]
      exact Or.inl (hletters _ (List.mem_map_of_mem hletter))
  · rw [hquoted] at h
    rw [List.mem_singleton.mp h]
    exact Or.inr hshown
  · rw [hquoted] at h
    exact Or.inl (plain_of_mem_numberEscape h)

theorem mem_quoteCharsBy (h : d ∈ quoteCharsBy shown cs) : IsPlain d ∨ shown d = true := by
  unfold quoteCharsBy at h
  rcases List.mem_cons.mp h with rfl | h
  · exact Or.inl (by decide)
  rcases List.mem_append.mp h with h | h
  · obtain ⟨c, -, hd⟩ := List.mem_flatMap.mp h
    exact mem_quoteCharBy hd
  · rw [List.mem_singleton.mp h]
    exact Or.inl (by decide)

theorem mem_furtherItems (h : d ∈ furtherItems shown items) : IsPlain d ∨ shown d = true := by
  induction items with
  | nil =>
    rw [List.mem_singleton.mp h]
    exact Or.inl (by decide)
  | cons item more ih =>
    rcases List.mem_cons.mp h with rfl | h
    · exact Or.inl (by decide)
    rcases List.mem_cons.mp h with rfl | h
    · exact Or.inl (by decide)
    rcases List.mem_append.mp h with h | h
    · exact mem_quoteCharsBy h
    · exact ih h

theorem mem_quoteListBy (h : d ∈ (quoteListBy shown items).toList) :
    IsPlain d ∨ shown d = true := by
  cases items with
  | nil =>
    have hbrackets : ∀ e ∈ ['[', ']'], IsPlain e := plain_of_all (by decide)
    exact Or.inl (hbrackets d (by simpa [quoteListBy] using h))
  | cons item more =>
    rw [toList_quoteListBy_cons] at h
    rcases List.mem_cons.mp h with rfl | h
    · exact Or.inl (by decide)
    rcases List.mem_append.mp h with h | h
    · exact mem_quoteCharsBy h
    · exact mem_furtherItems h

end RevisionControl.Text
