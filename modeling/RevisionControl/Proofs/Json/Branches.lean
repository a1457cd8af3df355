import RevisionControl.Proofs.Json.Strings
import RevisionControl.Proofs.Json.Numbers
import RevisionControl.Json.Skip

/-!
# Values are told by their first character

One reader takes a value, another skips it, and a third says what it has found instead of what was
asked for. They look at the first character in the same way and differ in what they do then, so
what they do then is made a parameter (`Branches`). A text that is ahead is on one branch
(`Branches.Ahead`): a reader goes on there (`reader_append`), and one that has taken something has
gone on there (`reader_ok`).
-/

namespace RevisionControl.Json

variable {α : Type}

/-! ## How values start -/

/-- A text that starts with neither a blank nor the end of an array. -/
def Opens (text : List Char) : Prop :=
  ∃ c more, text = c :: more ∧ Reader.isSpace c = false ∧ c ≠ ']'

theorem Opens.not_blank {t : List Char} (h : Opens t) (rest : List Char) :
    ∀ x ∈ (t ++ rest).head?, Reader.isSpace x = false := by
  obtain ⟨c, more, rfl, hc, -⟩ := h
  intro x hx
  obtain rfl : c = x := Option.some.inj hx
  exact hc

theorem Opens.append {t : List Char} (h : Opens t) (rest : List Char) : Opens (t ++ rest) := by
  obtain ⟨c, more, rfl, hc⟩ := h
  exact ⟨c, more ++ rest, rfl, hc⟩

theorem Opens.of_digit {d : Char} (hd : Reader.isDigit d = true) (more : List Char) :
    Opens (d :: more) := by
  refine ⟨d, more, rfl, ?_, ?_⟩
  · rw [Bool.eq_false_iff]
    intro hspace
    simp only [Reader.isSpace, Bool.or_eq_true, beq_iff_eq] at hspace
    rcases hspace with ((rfl | rfl) | rfl) | rfl <;> exact absurd hd (by decide)
  · rintro rfl
    exact absurd hd (by decide)

/-- A number without its sign starts with a digit. -/
theorem Literal.head (l : Literal) (rest : List Char) :
    ∃ d more, l.text ++ rest = d :: more ∧ Reader.isDigit d = true := by
  obtain ⟨d, more, hw, hd⟩ := l.whole_ok.digits.cons
  exact ⟨d, more ++ l.tail ++ rest, by rw [Literal.text, hw]; rfl, hd⟩

theorem Literal.opens (l : Literal) (negative : Bool) : Opens (signText negative ++ l.text) := by
  cases negative with
  | true => exact ⟨'-', l.text, rfl, by decide, by decide⟩
  | false =>
    obtain ⟨d, more, hl, hd⟩ := l.head []
    rw [List.append_nil] at hl
    rw [signText, hl]
    exact .of_digit hd more

theorem StringText.head {text : List Char} {s : String} (h : StringText text s)
    (rest : List Char) : (text ++ rest).head? = some '"' := by
  obtain ⟨body, -, rfl⟩ := h
  rfl

theorem LooseString.head {text : List Char} (h : LooseString text) (rest : List Char) :
    (text ++ rest).head? = some '"' := by
  obtain ⟨body, -, rfl⟩ := h
  rfl

/-- The bracket that opens. -/
def Reader.Bracket.opening : Reader.Bracket → Char
  | .array => '['
  | .object => '\x7b'

/-! ## Words -/

/-- A value that is written as a word. -/
inductive Word where
  | null
  | yes
  | no

/-- The first letter of a word. -/
def Word.initial : Word → Char
  | .null => 'n'
  | .yes => 't'
  | .no => 'f'

/-- The other letters of a word. -/
def Word.others : Word → List Char
  | .null => ['u', 'l', 'l']
  | .yes => ['r', 'u', 'e']
  | .no => ['a', 'l', 's', 'e']

/-- The letters of a word. -/
def Word.letters (w : Word) : List Char := w.initial :: w.others

/-- The value that a word is. -/
def Word.value : Word → Value
  | .null => .null
  | .yes => .boolean true
  | .no => .boolean false

theorem Word.scalarText (w : Word) : ScalarText w.letters w.value := by
  cases w with
  | null => exact .null
  | yes => exact .yes
  | no => exact .no

/-- A word is a value. -/
theorem Word.loose (w : Word) : LooseText w.letters := by
  cases w with
  | null => exact .null
  | yes => exact .yes
  | no => exact .no

/-- A value without brackets is a word, a number or a string. -/
theorem scalarText_iff {t : List Char} {v : Value} :
    ScalarText t v ↔ (∃ w : Word, t = w.letters ∧ v = w.value) ∨
      (∃ n, v = .number n ∧ NumberText t n) ∨ ∃ s, v = .text s ∧ StringText t s := by
  constructor
  · intro h
    cases h with
    | null => exact .inl ⟨.null, rfl, rfl⟩
    | yes => exact .inl ⟨.yes, rfl, rfl⟩
    | no => exact .inl ⟨.no, rfl, rfl⟩
    | number h => exact .inr (.inl ⟨_, rfl, h⟩)
    | text h => exact .inr (.inr ⟨_, rfl, h⟩)
  · rintro (⟨w, rfl, rfl⟩ | ⟨n, rfl, h⟩ | ⟨s, rfl, h⟩)
    · exact w.scalarText
    · exact .number h
    · exact .text h

/-- No value without brackets starts with a blank or the end of an array. -/
theorem ScalarText.opens {t : List Char} {v : Value} (h : ScalarText t v) : Opens t := by
  rcases scalarText_iff.mp h with ⟨w, rfl, -⟩ | ⟨n, -, negative, l, -, rfl⟩ | ⟨s, -, body, -, rfl⟩
  · cases w <;> exact ⟨_, _, rfl, by decide, by decide⟩
  · exact l.opens negative
  · exact ⟨_, _, rfl, by decide, by decide⟩

namespace Reader

/-! ## Branches -/

/-- What is done with a value of each kind. A word and a sign have been taken then; of a number
without a sign, a string, an array and an object the first character is ahead. -/
structure Branches (α : Type) where
  /-- Goes on behind a word. -/
  word : Word → Reader α
  /-- Goes on at the first digit of a number; tells whether a minus sign stands before it. -/
  number : Bool → Reader α
  /-- Goes on at the quote of a string. -/
  string : Reader α
  /-- Goes on at a bracket. -/
  bracket : Bracket → Reader α

namespace Branches

/-- Goes on as the character ahead tells. -/
def dispatch (b : Branches α) : Option Char → Reader α
  | none => failHere .endInValue
  | some c =>
    if c = 'n' then do skip; Reader.word ['u', 'l', 'l']; b.word .null
    else if c = 't' then do skip; Reader.word ['r', 'u', 'e']; b.word .yes
    else if c = 'f' then do skip; Reader.word ['a', 'l', 's', 'e']; b.word .no
    else if c = '-' then do skip; b.number true
    else if isDigit c then b.number false
    else if c = '"' then b.string
    else if c = '[' then b.bracket .array
    else if c = '\x7b' then b.bracket .object
    else failAhead .expectedValue

/-- Goes on as the first character behind the blanks tells. -/
def reader (b : Branches α) : Reader α := do b.dispatch (← peekToken?)

theorem dispatch_word (b : Branches α) (w : Word) :
    b.dispatch (some w.initial) = (do skip; Reader.word w.others; b.word w) := by
  cases w <;> rfl

theorem dispatch_digit (b : Branches α) {d : Char} (hd : isDigit d = true) :
    b.dispatch (some d) = b.number false := by
  have hne : ¬ d = 'n' ∧ ¬ d = 't' ∧ ¬ d = 'f' ∧ ¬ d = '-' := by
    refine ⟨?_, ?_, ?_, ?_⟩ <;>
      · rintro rfl
        exact absurd hd (by decide)
  obtain ⟨hn, ht, hf, hminus⟩ := hne
  simp only [dispatch, if_neg hn, if_neg ht, if_neg hf, if_neg hminus, hd, if_true]

theorem dispatch_bracket (b : Branches α) (bracket : Bracket) :
    b.dispatch (some bracket.opening) = b.bracket bracket := by
  cases bracket <;> rfl

/-- The branch that a text is on: what is taken from its front, what is left, and how the reader
goes on. -/
inductive Ahead (b : Branches α) : List Char → List Char → Reader α → Prop where
  | word (w : Word) (rest : List Char) : Ahead b w.letters rest (b.word w)
  | number (negative : Bool) {rest : List Char}
      (hdigit : negative = false → ∃ d more, rest = d :: more ∧ isDigit d = true) :
      Ahead b (signText negative) rest (b.number negative)
  | string {rest : List Char} (hquote : rest.head? = some '"') : Ahead b [] rest b.string
  | bracket (bracket : Bracket) {rest : List Char} (hopening : rest.head? = some bracket.opening) :
      Ahead b [] rest (b.bracket bracket)

variable {b : Branches α}

theorem Ahead.not_blank {taken rest : List Char} {r : Reader α} (h : b.Ahead taken rest r) :
    ∀ x ∈ (taken ++ rest).head?, isSpace x = false := by
  cases h with
  | word w => exact w.scalarText.opens.not_blank rest
  | number negative hdigit =>
    cases negative with
    | true => exact Opens.not_blank ⟨'-', [], rfl, by decide, by decide⟩ rest
    | false =>
      obtain ⟨d, more, rfl, hd⟩ := hdigit rfl
      have hopens := (Opens.of_digit hd more).not_blank []
      rwa [List.append_nil] at hopens
  | string hquote =>
    intro x hx
    rw [List.nil_append, hquote] at hx
    obtain rfl : '"' = x := Option.some.inj hx
    decide
  | bracket bracket hopening =>
    intro x hx
    rw [List.nil_append, hopening] at hx
    obtain rfl : bracket.opening = x := Option.some.inj hx
    cases bracket <;> decide

/-- The reader goes on as the text ahead tells. -/
theorem reader_append {blanks taken rest : List Char} {r : Reader α} (hb : Blanks blanks)
    (h : b.Ahead taken rest r) (p : Position) :
    ∃ p', b.reader ⟨blanks ++ (taken ++ rest), p⟩ = r ⟨rest, p'⟩ := by
  rw [reader, peekToken?_bind hb h.not_blank]
  cases h with
  | word w =>
    rw [Word.letters, List.cons_append, List.head?_cons, dispatch_word, skip_bind]
    exact ⟨_, bind_of_ok (word_append w.others rest _)⟩
  | number negative hdigit =>
    cases negative with
    | true => exact ⟨_, rfl⟩
    | false =>
      obtain ⟨d, more, rfl, hd⟩ := hdigit rfl
      exact ⟨_, congrFun (b.dispatch_digit hd) _⟩
  | string hquote =>
    rw [List.nil_append, hquote]
    exact ⟨_, rfl⟩
  | bracket bracket hopening =>
    rw [List.nil_append, hopening, dispatch_bracket]
    exact ⟨_, rfl⟩

/-- A reader that has gone on behind a word has taken the word. -/
theorem word_ahead (w : Word) {rest : List Char} {p : Position} {a : α} {c' : Cursor}
    (h : (do skip; Reader.word w.others; b.word w : Reader α) ⟨w.initial :: rest, p⟩ =
      .ok (a, c')) :
    ∃ taken more r q, b.Ahead taken more r ∧ w.initial :: rest = taken ++ more ∧
      r ⟨more, q⟩ = .ok (a, c') := by
  rw [skip_bind] at h
  obtain ⟨⟨⟩, ⟨more, q⟩, hw, h⟩ := bind_ok.mp h
  exact ⟨_, more, _, q, .word w more, congrArg (w.initial :: ·) (word_ok hw), h⟩

theorem dispatch_ok {x : Char} {rest : List Char} {p : Position} {a : α} {c' : Cursor}
    (h : b.dispatch (some x) ⟨x :: rest, p⟩ = .ok (a, c')) :
    ∃ taken more r q, b.Ahead taken more r ∧ x :: rest = taken ++ more ∧
      r ⟨more, q⟩ = .ok (a, c') := by
  rcases if_ok.mp h with ⟨rfl, h⟩ | ⟨-, h⟩
  · exact word_ahead .null h
  rcases if_ok.mp h with ⟨rfl, h⟩ | ⟨-, h⟩
  · exact word_ahead .yes h
  rcases if_ok.mp h with ⟨rfl, h⟩ | ⟨-, h⟩
  · exact word_ahead .no h
  rcases if_ok.mp h with ⟨rfl, h⟩ | ⟨-, h⟩
  · exact ⟨_, rest, _, p.after '-', .number true (by simp), rfl, h⟩
  rcases if_ok.mp h with ⟨hd, h⟩ | ⟨-, h⟩
  · exact ⟨_, x :: rest, _, p, .number false fun _ => ⟨x, rest, rfl, hd⟩, rfl, h⟩
  rcases if_ok.mp h with ⟨rfl, h⟩ | ⟨-, h⟩
  · exact ⟨[], _, _, p, .string rfl, rfl, h⟩
  rcases if_ok.mp h with ⟨rfl, h⟩ | ⟨-, h⟩
  · exact ⟨[], _, _, p, .bracket .array rfl, rfl, h⟩
  rcases if_ok.mp h with ⟨rfl, h⟩ | ⟨-, h⟩
  · exact ⟨[], _, _, p, .bracket .object rfl, rfl, h⟩
  · exact absurd h (Never.failAhead _ _ _ _)

/-- A reader that has taken something has gone on at one of the branches. -/
theorem reader_ok {a : α} {c c' : Cursor} (h : b.reader c = .ok (a, c')) :
    ∃ blanks taken rest r p, Blanks blanks ∧ b.Ahead taken rest r ∧
      c.rest = blanks ++ (taken ++ rest) ∧ r ⟨rest, p⟩ = .ok (a, c') := by
  obtain ⟨blanks, x, rest, p, hb, hc, h⟩ := peekToken?_bind_cons_ok h (.failHere _)
  obtain ⟨taken, more, r, q, hahead, hrest, h⟩ := dispatch_ok h
  exact ⟨blanks, taken, more, r, q, hb, hahead, by rw [hc, hrest], h⟩

/-- A reader takes nothing if it does so on every branch. -/
theorem never (hword : ∀ w, Never (b.word w)) (hnumber : ∀ negative, Never (b.number negative))
    (hstring : Never b.string) (hbracket : ∀ bracket, Never (b.bracket bracket)) :
    Never b.reader := by
  intro c a c' h
  obtain ⟨blanks, taken, rest, r, p, -, hahead, -, h⟩ := reader_ok h
  cases hahead with
  | word w => exact hword w _ _ _ h
  | number negative => exact hnumber negative _ _ _ h
  | string => exact hstring _ _ _ h
  | bracket bracket => exact hbracket bracket _ _ _ h

end Branches

/-! ## The three readers -/

/-- What the reader of values does: less than `limit` brackets may be opened inside. -/
def valueBranches (limit : Nat) : Branches Value where
  word w := return w.value
  number negative := return .number (← Reader.number negative)
  string := return .text (← Reader.string)
  bracket
    | .array => if limit = 0 then failAhead .tooDeep else return .array (← array (value limit))
    | .object =>
      if limit = 0 then failAhead .tooDeep
      else return .object (Members.ofList (← object (value limit)))

theorem value_eq (limit : Nat) : value (limit + 1) = (valueBranches limit).reader := rfl

/-- What a step of skipping does where a value is due. -/
def skipBranches (stack : List Bracket) : Branches (Due × List Bracket) where
  word _ := return (.rest, stack)
  number _ := do skipNumber; return (.rest, stack)
  string := do skipString; return (.rest, stack)
  bracket bracket :=
    return if ← openBracket bracket then (.rest, stack) else (bracket.item, bracket :: stack)

theorem skipStep_eq (stack : List Bracket) :
    skipStep .value stack = (skipBranches stack).reader := rfl

/-- What is done with a value that was not asked for. -/
def refusals (expected : String) : Branches α where
  word
    | .null => unexpected.refuse expected .null
    | .yes => unexpected.refuse expected (.boolean true)
    | .no => unexpected.refuse expected (.boolean false)
  number negative := do unexpected.refuse expected (.number (← Reader.number negative))
  string := do unexpected.refuse expected (.text (← Reader.string))
  bracket
    | .array => unexpected.refuse expected .array
    | .object => unexpected.refuse expected .object

theorem unexpected_eq (expected : String) :
    (unexpected expected : Reader α) = (refusals expected).reader := rfl

/-- Nothing is taken where something else was asked for. -/
theorem never_unexpected (expected : String) : Never (unexpected expected : Reader α) := by
  have hrefuse : ∀ found, Never (unexpected.refuse expected found : Reader α) :=
    fun found => .failHere _
  rw [unexpected_eq]
  refine Branches.never (fun w => ?_) (fun negative => ?_) ?_ fun bracket => ?_
  · cases w <;> exact hrefuse _
  · exact .bind fun _ => hrefuse _
  · exact .bind fun _ => hrefuse _
  · cases bracket <;> exact hrefuse _

end Reader

end RevisionControl.Json
