import RevisionControl.Proofs.Json.Mappings
import RevisionControl.Json.Writer

/-!
# What is written is read back

The text that is written for a value spells it, with the keys of every object in ascending order,
if the value was spelled by some text in the first place and its numbers are integers. What is
read from the text is therefore the value again.
-/

namespace RevisionControl.Json

variable {α : Type}

/-! ## Numbers -/

theorem isDigit_eq (c : Char) : Reader.isDigit c = c.isDigit := by
  simp only [Reader.isDigit, Char.isDigit, Char.le_def, ge_iff_le]

/-- The digits of a number write it. -/
theorem decimal_toDigits (n : Nat) : decimal (Nat.toDigits 10 n) = n := by
  have hsame : decimal (Nat.toDigits 10 n) = Nat.ofDigitChars 10 (Nat.toDigits 10 n) 0 := by
    simp only [decimal, Nat.ofDigitChars, Reader.digitValue, Nat.mul_comm]
  rw [hsame, Nat.ofDigitChars_ten_toDigits]

theorem head?_toDigits {n : Nat} (hn : 0 < n) : (Nat.toDigits 10 n).head? ≠ some '0' := by
  induction n using Nat.strongRecOn with
  | ind n ih =>
    rw [Nat.toDigits_eq_if (by decide)]
    split
    · next hlt =>
      have hdigit : ∀ d : Fin 10, 0 < d.val → d.val.digitChar ≠ '0' := by decide
      simpa using hdigit ⟨n, hlt⟩ hn
    · next hge =>
      have hfront := ih (n / 10) (by omega) (by omega)
      cases hdigits : Nat.toDigits 10 (n / 10) with
      | nil => exact absurd hdigits Nat.toDigits_ne_nil
      | cons d more =>
        rw [hdigits] at hfront
        simpa using hfront

theorem whole_toDigits (n : Nat) : Whole (Nat.toDigits 10 n) := by
  by_cases hn : n = 0
  · subst hn
    exact .inl (by decide)
  · refine .inr ⟨⟨Nat.toDigits_ne_nil, fun c hc => ?_⟩, head?_toDigits (by omega)⟩
    rw [isDigit_eq]
    exact Nat.isDigit_of_mem_toDigits (by decide) (by decide) hc

/-- The text of an integer that is kept exactly is read as that integer. -/
theorem numberText_write {n : Int} {text : List Char} (h : NumberText text (.integer n)) :
    NumberText (Number.integer n).text.toList (.integer n) := by
  obtain ⟨negative, l, hl, -⟩ := h
  obtain ⟨-, -, hrange⟩ := Literal.number?_eq_integer.mp hl
  -- The range speaks of the value alone, so other digits of the same value are in it too.
  let digits : Literal := ⟨Nat.toDigits 10 (decimal l.whole), none, none, whole_toDigits _, by simp⟩
  have htext : digits.text = Nat.toDigits 10 (decimal l.whole) := by
    simp [Literal.text, Literal.tail, digits, decimalsText, exponentText]
  refine ⟨negative, digits, Literal.number?_eq_integer.mpr ⟨rfl, rfl, ?_⟩, ?_⟩
  · simpa only [digits, decimal_toDigits] using hrange
  · rw [htext]
    rcases hrange with ⟨rfl, rfl, -⟩ | ⟨rfl, rfl, hpos, -⟩
    · change (Int.repr _).toList = _
      simp [Int.repr_eq_if, Nat.repr_eq_ofList_toDigits, signText]
    · change (Int.repr _).toList = _
      have hne : decimal l.whole ≠ 0 := by omega
      simp [Int.repr_eq_if, hne, Nat.repr_eq_ofList_toDigits, signText]

/-! ## Strings -/

theorem hexUnit?_controlDigits :
    ∀ n : Fin 32, (match controlDigits (Char.ofNat n) with
      | [w, x, y, z] => Reader.hexUnit? w x y z
      | _ => none) = some n.val := by decide

/-- A character that is written in a string is read there as itself. -/
theorem escapeChar_body (c : Char) {text s : List Char} (h : StringBody text s) :
    StringBody (escapeChar c ++ text) (c :: s) := by
  have hletter : ∀ d meant : Char, Reader.letterEscape? d = some meant →
      StringBody ('\\' :: d :: text) (meant :: s) :=
    fun d meant hd => .escape (t := [d]) (.letter hd) h
  rw [escapeChar]
  split
  · next hc => exact hc ▸ hletter '"' '"' (by decide)
  split
  · next hc => exact hc ▸ hletter '\\' '\\' (by decide)
  split
  · next hc => exact hc ▸ hletter 'b' '\x08' (by decide)
  split
  · next hc => exact hc ▸ hletter 'f' '\x0c' (by decide)
  split
  · next hc => exact hc ▸ hletter 'n' '\n' (by decide)
  split
  · next hc => exact hc ▸ hletter 'r' '\r' (by decide)
  split
  · next hc => exact hc ▸ hletter 't' '\t' (by decide)
  next hquote hslash _ _ _ _ _ =>
  split
  · next hcontrol =>
    have hdigits := hexUnit?_controlDigits ⟨c.toNat, hcontrol⟩
    simp only [Char.ofNat_toNat] at hdigits
    split at hdigits
    · next w x y z hfour =>
      have hunit := StringBody.escape (.unit hdigits ?_ ?_) h
      · rw [Char.ofNat_toNat] at hunit
        simpa [hfour] using hunit
      · simp only [Reader.isLowSurrogate, Bool.and_eq_false_iff, decide_eq_false_iff_not]
        omega
      · simp only [Reader.isHighSurrogate, Bool.and_eq_false_iff, decide_eq_false_iff_not]
        omega
    · cases hdigits
  · next hcontrol => exact .plain ⟨hquote, hslash, hcontrol⟩ h

theorem stringChars_text (s : String) : StringText (stringChars s) s := by
  have hbody : ∀ cs : List Char, StringBody (cs.flatMap escapeChar ++ ['"']) cs := by
    intro cs
    induction cs with
    | nil => exact .close
    | cons c more ih =>
      rw [List.flatMap_cons, List.append_assoc]
      exact escapeChar_body c ih
  exact ⟨_, hbody s.toList, rfl⟩

/-! ## Arrays and objects -/

/-- Texts with commas between them. -/
def joined : List (List Char) → List Char
  | [] => []
  | [t] => t
  | t :: more => t ++ ',' :: joined more

theorem itemsChars_eq (items : List Value) : itemsChars items = joined (items.map Value.chars) := by
  induction items with
  | nil => rfl
  | cons item more ih =>
    cases more with
    | nil => rfl
    | cons next rest =>
      rw [itemsChars, ih]
      · simp [joined]
      · exact List.cons_ne_nil next rest

/-- The characters of a member. -/
def memberChars (m : String × Value) : List Char := stringChars m.1 ++ ':' :: m.2.chars

theorem membersChars_eq (members : List (String × Value)) :
    membersChars members = joined (members.map memberChars) := by
  induction members with
  | nil => rfl
  | cons m more ih =>
    obtain ⟨key, v⟩ := m
    cases more with
    | nil => rfl
    | cons next rest =>
      rw [membersChars, ih]
      · simp [joined, memberChars]
      · exact List.cons_ne_nil next rest

/-- Texts with commas between them are items. -/
theorem joined_items {S : List Char → α → Prop} {close : Char} {chars : α → List Char}
    {as : List α} (h : ∀ a ∈ as, S (chars a) a) :
    Items S close true (joined (as.map chars) ++ [close]) as := by
  have htail : ∀ as : List α, as ≠ [] → (∀ a ∈ as, S (chars a) a) →
      Items S close false (',' :: (joined (as.map chars) ++ [close])) as := by
    intro as
    induction as with
    | nil => exact fun hne => absurd rfl hne
    | cons a more ih =>
      intro _ h
      have ha : Padded S (chars a) a := .of (h a List.mem_cons_self)
      have hmore : ∀ b ∈ more, S (chars b) b := fun b hb => h b (List.mem_cons_of_mem _ hb)
      cases more with
      | nil => exact .next Blanks.nil ha (.close Blanks.nil)
      | cons b rest =>
        have hrest := ih (by simp) hmore
        have hitems := Items.next Blanks.nil ha hrest
        simpa [joined] using hitems
  cases as with
  | nil => exact .close Blanks.nil
  | cons a more =>
    have ha : Padded S (chars a) a := .of (h a List.mem_cons_self)
    have hmore : ∀ b ∈ more, S (chars b) b := fun b hb => h b (List.mem_cons_of_mem _ hb)
    cases more with
    | nil => exact .first ha (.close Blanks.nil)
    | cons b rest =>
      have hitems := Items.first ha (htail (b :: rest) (by simp) hmore)
      simpa [joined] using hitems

/-- An object is written with the texts of its members as they are written for themselves. -/
theorem objectText_chars {members : List (String × Value)}
    (h : ∀ m ∈ members, LooseText m.2.chars) :
    ObjectText StringText Verbatim (Value.object members).chars
      (members.map fun m => (m.1, m.2.chars)) := by
  let pieces := members.map fun m => (m.1, m.2.chars)
  let pieceChars : String × List Char → List Char := fun m => stringChars m.1 ++ ':' :: m.2
  have hpieces : ∀ m ∈ pieces, MemberText StringText Verbatim (pieceChars m) m := by
    intro m hm
    obtain ⟨member, hmember, rfl⟩ := List.mem_map.mp hm
    have hvalue : Verbatim member.2.chars member.2.chars := ⟨h member hmember, rfl⟩
    exact ⟨_, [], _, stringChars_text member.1, Blanks.nil, .of hvalue, rfl⟩
  have hchars : pieces.map pieceChars = members.map memberChars := by
    rw [List.map_map]
    rfl
  refine ⟨_, joined_items hpieces, ?_⟩
  rw [Value.chars, membersChars_eq, hchars]

/-- The text of a natural number has no sign, fraction or exponent. -/
theorem countText_chars {greatest n : Nat} (h : n ≤ greatest) :
    CountText greatest (Value.number (.integer n)).chars n := by
  have htext : (Value.number (.integer n)).chars = Nat.toDigits 10 n := by
    rw [Value.chars]
    change (Int.repr n).toList = _
    simp [Int.repr_eq_if, Nat.repr_eq_ofList_toDigits]
  rw [htext]
  exact ⟨whole_toDigits n, (decimal_toDigits n).symm, h⟩

/-! ## Values -/

/-- A value whose numbers are all integers that are kept exactly: `Literal.number?_eq_integer` says
which those are. -/
inductive WholeNumbers : Value → Prop where
  | null : WholeNumbers .null
  | boolean (b : Bool) : WholeNumbers (.boolean b)
  | integer (n : Int) : WholeNumbers (.number (.integer n))
  | text (s : String) : WholeNumbers (.text s)
  | array {items : List Value} (h : ∀ v ∈ items, WholeNumbers v) : WholeNumbers (.array items)
  | object {members : List (String × Value)} (h : ∀ m ∈ members, WholeNumbers m.2) :
      WholeNumbers (.object members)

theorem scalar_chars {t : List Char} {v : Value} (h : ScalarText t v) (hv : WholeNumbers v) :
    ScalarText v.chars v := by
  cases h with
  | null => rw [Value.chars]; exact .null
  | yes => rw [Value.chars]; exact .yes
  | no => rw [Value.chars]; exact .no
  | number h =>
    cases hv with
    | integer n => rw [Value.chars]; exact .number (numberText_write h)
  | text h => rw [Value.chars]; exact .text (stringChars_text _)

/-- The text that is written for a value spells it, with ascending keys. -/
theorem chars_spells {order : Members → Prop} {depth : Nat} {t : List Char} {v : Value}
    (h : Spells order depth t v) (hv : WholeNumbers v) :
    Spells Members.Ascending depth v.chars v := by
  -- The depth is what goes down: members that are written again need not be those of the text.
  induction depth generalizing t v with
  | zero => exact scalar_chars h hv
  | succ depth ih =>
    rcases h with h | ⟨items, ⟨body, hbody, -⟩, rfl⟩ | ⟨written, ⟨body, hbody, -⟩, -, rfl⟩
    · exact .inl (scalar_chars h hv)
    · cases hv with
      | array hv =>
        have hspelled : ∀ v ∈ items, ∃ t, Spells order depth t v := hbody.all fun t v h => ⟨t, h⟩
        have hitems : ∀ v ∈ items, Spells Members.Ascending depth v.chars v := by
          intro v hmem
          obtain ⟨t, ht⟩ := hspelled v hmem
          exact ih ht (hv v hmem)
        refine .inr (.inl ⟨items, ⟨_, joined_items hitems, ?_⟩, rfl⟩)
        rw [Value.chars, itemsChars_eq]
    · cases hv with
      | object hv =>
        have hspelled : ∀ m ∈ written, ∃ t, Spells order depth t m.2 :=
          hbody.all fun t m => MemberText.value
        have hmembers : ∀ m ∈ Members.ofList written,
            MemberText StringText (Spells Members.Ascending depth) (memberChars m) m := by
          intro m hmem
          obtain ⟨t, ht⟩ := hspelled m (Members.mem_of_mem_ofList hmem)
          exact ⟨_, [], _, stringChars_text m.1, Blanks.nil, .of (ih ht (hv m hmem)), rfl⟩
        have hascending := Members.ofList_ascending written
        refine .inr (.inr ⟨Members.ofList written, ⟨_, joined_items hmembers, ?_⟩, hascending, ?_⟩)
        · rw [Value.chars, membersChars_eq]
        · rw [Members.ofList_of_ascending hascending]

/-- A text spells the same value where less order is asked for and more brackets may be open. -/
theorem Spells.mono {order order' : Members → Prop}
    (horder : ∀ members, order members → order' members) {few many : Nat} (hle : few ≤ many)
    {t : List Char} {v : Value} (h : Spells order few t v) : Spells order' many t v := by
  induction few generalizing many t v with
  | zero =>
    cases many with
    | zero => exact h
    | succ many => exact .inl h
  | succ few ih =>
    obtain ⟨many, rfl⟩ : ∃ n, many = n + 1 := ⟨many - 1, by omega⟩
    have hspells : ∀ t v, Spells order few t v → Spells order' many t v :=
      fun t v => ih (Nat.le_of_succ_le_succ hle)
    rcases h with h | ⟨items, ⟨body, hbody, rfl⟩, rfl⟩ | ⟨written, ⟨body, hbody, rfl⟩, ho, rfl⟩
    · exact .inl h
    · exact .inr (.inl ⟨items, ⟨body, hbody.imp hspells, rfl⟩, rfl⟩)
    · have hmembers := hbody.imp fun t m => MemberText.imp hspells
      exact .inr (.inr ⟨written, ⟨body, hmembers, rfl⟩, horder written ho, rfl⟩)

/-- A value that is written is read back from its text. -/
theorem Value.parse_write {order : Members → Prop} {t : List Char} {v : Value}
    (h : Spells order 127 t v) (hv : WholeNumbers v) : Value.parse v.write = .ok v := by
  have hspells : Spells AnyOrder 127 v.chars v :=
    (chars_spells h hv).mono (fun _ _ => trivial) (Nat.le_refl _)
  exact (Value.parse_ok _ _).mpr
    ⟨[], v.chars, [], Blanks.nil, Blanks.nil, hspells, by simp [Value.write]⟩

end RevisionControl.Json
