import RevisionControl.Json.Value
import RevisionControl.Json.Strings
import RevisionControl.Json.Numbers

/-!
# The grammar of JSON texts

What a text says, without a word about how it is read: every rule relates a list of characters to
what it stands for, and a composite text is the concatenation of the texts of its parts. The rules
come in two strengths. `Spells` gives the value of a text, within a limit on the brackets that lie
inside each other and on the size of numbers; `LooseText` only says that a text is one value, at any
depth and with numbers of any size, and asks less of the escapes by number in a string.
-/

namespace RevisionControl.Json

open RevisionControl.Decimal

variable {α κ : Type}

/-! ## Blanks, and what may follow a value -/

/-- A text of blanks only. -/
def Blanks (text : List Char) : Prop := ∀ c ∈ text, Reader.isSpace c = true

/-- A text that does not continue a number that stands before it. -/
def Ends (rest : List Char) : Prop :=
  ∀ c ∈ rest.head?, Reader.isDigit c = false ∧ c ≠ '.' ∧ c ≠ 'e' ∧ c ≠ 'E'

/-- A text that does not start with a digit. -/
def NoDigit (rest : List Char) : Prop := ∀ c ∈ rest.head?, Reader.isDigit c = false

/-- What does not continue a number does not start with a digit. -/
theorem Ends.noDigit {rest : List Char} (h : Ends rest) : NoDigit rest :=
  fun c hc => (h c hc).1

theorem Ends.nil : Ends [] := by simp [Ends]

theorem Blanks.nil : Blanks [] := by simp [Blanks]

theorem Blanks.append {s t : List Char} (hs : Blanks s) (ht : Blanks t) : Blanks (s ++ t) := by
  intro c hc
  rcases List.mem_append.mp hc with h | h
  · exact hs c h
  · exact ht c h

/-- Blanks do not continue a number. -/
theorem Blanks.ends {blanks : List Char} (h : Blanks blanks) : Ends blanks := by
  intro c hc
  have hspace : Reader.isSpace c = true := h c (List.mem_of_mem_head? hc)
  simp only [Reader.isSpace, Bool.or_eq_true, beq_iff_eq] at hspace
  rcases hspace with ((rfl | rfl) | rfl) | rfl <;> decide

/-- A text of `S` with blanks before it. -/
def Padded (S : List Char → α → Prop) (text : List Char) (a : α) : Prop :=
  ∃ blanks t, Blanks blanks ∧ S t a ∧ text = blanks ++ t

/-- A whole text that is one of `S` between blanks. -/
def Document (S : List Char → α → Prop) (s : String) (a : α) : Prop :=
  ∃ before t after, Blanks before ∧ Blanks after ∧ S t a ∧ s.toList = before ++ (t ++ after)

/-! ## Strings -/

/-- What may follow a backslash, and the character it stands for. The two halves of a surrogate
pair are escaped one after the other. -/
inductive EscapeText : List Char → Char → Prop where
  | letter {d c : Char} (h : Reader.letterEscape? d = some c) : EscapeText [d] c
  | unit {w x y z : Char} {n : Nat} (hn : Reader.hexUnit? w x y z = some n)
      (hlow : Reader.isLowSurrogate n = false) (hhigh : Reader.isHighSurrogate n = false) :
      EscapeText ['u', w, x, y, z] (Char.ofNat n)
  | pair {w x y z w' x' y' z' : Char} {n m : Nat} (hn : Reader.hexUnit? w x y z = some n)
      (hm : Reader.hexUnit? w' x' y' z' = some m) (hhigh : Reader.isHighSurrogate n = true)
      (hlow : Reader.isLowSurrogate m = true) :
      EscapeText ['u', w, x, y, z, '\\', 'u', w', x', y', z'] (Reader.surrogatePair n m)

/-- A character that stands for itself inside a string. -/
def Plain (c : Char) : Prop := c ≠ '"' ∧ c ≠ '\\' ∧ ¬ c.toNat < 0x20

/-- The characters of a string behind its opening quote, the closing one included. -/
inductive StringBody : List Char → List Char → Prop where
  | close : StringBody ['"'] []
  | plain {c : Char} {text s : List Char} (hc : Plain c) (h : StringBody text s) :
      StringBody (c :: text) (c :: s)
  | escape {t text s : List Char} {c : Char} (hc : EscapeText t c) (h : StringBody text s) :
      StringBody ('\\' :: (t ++ text)) (c :: s)

/-- The text of a string. -/
def StringText (text : List Char) (s : String) : Prop :=
  ∃ body, StringBody body s.toList ∧ text = '"' :: body

/-- What may follow a backslash where no character is asked for. -/
inductive LooseEscape : List Char → Prop where
  | letter {d : Char} (h : (Reader.letterEscape? d).isSome) : LooseEscape [d]
  | unit {w x y z : Char} (h : (Reader.hexUnit? w x y z).isSome) : LooseEscape ['u', w, x, y, z]

/-- The rest of a string that may name halves of surrogate pairs. -/
inductive LooseBody : List Char → Prop where
  | close : LooseBody ['"']
  | plain {c : Char} {text : List Char} (hc : Plain c) (h : LooseBody text) :
      LooseBody (c :: text)
  | escape {t text : List Char} (ht : LooseEscape t) (h : LooseBody text) :
      LooseBody ('\\' :: (t ++ text))

/-- The text of a string that may name halves of surrogate pairs. -/
def LooseString (text : List Char) : Prop := ∃ body, LooseBody body ∧ text = '"' :: body

/-- A surrogate pair that is escaped is two escapes where no character is asked for. -/
theorem StringBody.loose {t s : List Char} (h : StringBody t s) : LooseBody t := by
  induction h with
  | close => exact .close
  | plain hc _ ih => exact .plain hc ih
  | escape hc _ ih =>
    cases hc with
    | letter h => exact .escape (.letter (by simp [h])) ih
    | unit hn => exact .escape (.unit (by simp [hn])) ih
    | pair hn hm hhigh hlow =>
      next w x y z _ _ _ _ _ _ =>
      have hsecond := LooseBody.escape (.unit (by rw [hm]; rfl)) ih
      exact .escape (t := ['u', w, x, y, z]) (.unit (by rw [hn]; rfl)) hsecond

theorem StringText.loose {text : List Char} {s : String} (h : StringText text s) :
    LooseString text := by
  obtain ⟨body, hbody, rfl⟩ := h
  exact ⟨body, hbody.loose, rfl⟩

/-! ## Numbers -/

/-- One digit or more. -/
def Digits (text : List Char) : Prop := text ≠ [] ∧ ∀ c ∈ text, Reader.isDigit c = true

/-- The digits of a number before its point: no zero stands in front of another digit. -/
def Whole (text : List Char) : Prop :=
  text = ['0'] ∨ (Digits text ∧ text.head? ≠ some '0')

theorem Digits.cons {text : List Char} (h : Digits text) :
    ∃ d more, text = d :: more ∧ Reader.isDigit d = true := by
  obtain ⟨hne, hall⟩ := h
  cases text with
  | nil => exact absurd rfl hne
  | cons d more => exact ⟨d, more, rfl, hall d (by simp)⟩

/-- There is a digit before the point. -/
theorem Whole.digits {text : List Char} (h : Whole text) : Digits text := by
  rcases h with rfl | ⟨h, -⟩
  · exact ⟨by simp, by simp; decide⟩
  · exact h

/-- The number that digits write. -/
def decimal (digits : List Char) : Nat :=
  digits.foldl (fun n d => n * 10 + Reader.digitValue d) 0

/-- The exponent of a number. -/
structure Exponent where
  /-- The letter it starts with. -/
  letter : Char
  /-- Its sign, if there is one. -/
  sign : List Char
  /-- Its digits. -/
  digits : List Char
  letter_eq : letter = 'e' ∨ letter = 'E'
  sign_eq : sign = [] ∨ sign = ['+'] ∨ sign = ['-']
  digits_ok : Digits digits

/-- The text of an exponent. -/
def Exponent.text (e : Exponent) : List Char := e.letter :: (e.sign ++ e.digits)

/-- Whether the exponent is negative. -/
def Exponent.below (e : Exponent) : Bool := e.sign = ['-']

/-- A number without its sign. -/
structure Literal where
  /-- The digits before the point. -/
  whole : List Char
  /-- The digits behind the point, if there is one. -/
  decimals : Option (List Char)
  /-- The exponent, if there is one. -/
  exponent : Option Exponent
  whole_ok : Whole whole
  decimals_ok : ∀ digits ∈ decimals, Digits digits

/-- The text of a fraction that may be missing. -/
def decimalsText : Option (List Char) → List Char
  | none => []
  | some digits => '.' :: digits

/-- The text of an exponent that may be missing. -/
def exponentText : Option Exponent → List Char
  | none => []
  | some e => e.text

/-- What follows the digits before the point. -/
def Literal.tail (l : Literal) : List Char := decimalsText l.decimals ++ exponentText l.exponent

/-- The text of a number without its sign. -/
def Literal.text (l : Literal) : List Char := l.whole ++ l.tail

/-- An exponent starts with neither a digit nor a point, and nothing that follows a missing one
does. -/
theorem exponentText_head (ex : Option Exponent) {rest : List Char} (hr : Ends rest) :
    NoDigit (exponentText ex ++ rest) ∧ (exponentText ex ++ rest).head? ≠ some '.' := by
  cases ex with
  | none => exact ⟨hr.noDigit, fun h => (hr '.' h).2.1 rfl⟩
  | some e =>
    rw [exponentText, Exponent.text]
    rcases e.letter_eq with he | he <;> rw [he] <;> exact ⟨by simp [NoDigit]; decide, by simp⟩

/-- The digits before the point end where the rest of the number starts. -/
theorem Literal.noDigit_tail (l : Literal) {rest : List Char} (hr : Ends rest) :
    NoDigit (l.tail ++ rest) := by
  rw [Literal.tail, List.append_assoc]
  cases l.decimals with
  | none => exact (exponentText_head l.exponent hr).1
  | some digits =>
    intro c hc
    obtain rfl : '.' = c := Option.some.inj hc
    decide

/-- The integer that a number is kept as: one without fraction and exponent that fits 64 bits,
with or without a sign, and is no zero with a minus sign. -/
def Literal.integer? (negative : Bool) (l : Literal) : Option Int :=
  if l.decimals.isSome ∨ l.exponent.isSome then none
  else if negative then
    if 0 < decimal l.whole ∧ decimal l.whole ≤ Nat.pow 2 63 then some (-(decimal l.whole : Int))
    else none
  else if decimal l.whole < Nat.pow 2 64 then some (decimal l.whole)
  else none

/-- The significand and the power of ten of the digits, as far as they are kept. -/
def Literal.scaled (l : Literal) : Nat × Int :=
  let (n, left) := Reader.appendDigits Reader.greatestSignificand 0 l.whole
  match l.decimals with
  | none => (n, left.length)
  | some digits =>
    let (m, beyond) := Reader.appendDigits Reader.greatestSignificand n digits
    (m, left.length - (digits.length - beyond.length : Nat))

/-- The double-precision number for digits before an exponent; none if it is out of range. -/
def Exponent.double? (e : Exponent) (negative : Bool) (n : Nat) (power : Int) : Option Double :=
  match Reader.appendDigits Reader.greatestExponent 0 e.digits with
  | (k, []) =>
    (Double.ofScaled n (if e.below then power - k else power + k)).map (·.withSign negative)
  | _ => if n ≠ 0 ∧ !e.below then none else some (Double.zero.withSign negative)

/-- The double-precision number for digits before an exponent that may be missing. -/
def powered? (negative : Bool) (n : Nat) (power : Int) : Option Exponent → Option Double
  | none => (Double.ofScaled n power).map (·.withSign negative)
  | some e => e.double? negative n power

/-- The double-precision number of a number; none if it is out of range. -/
def Literal.double? (negative : Bool) (l : Literal) : Option Double :=
  powered? negative l.scaled.1 l.scaled.2 l.exponent

/-- What a number is read as; none if it is out of range. -/
def Literal.number? (negative : Bool) (l : Literal) : Option Number :=
  match l.integer? negative with
  | some n => some (.integer n)
  | none => (l.double? negative).map .real

/-- A number with a fraction or an exponent is not kept as an integer. -/
theorem Literal.number?_of_tail {l : Literal} (h : l.decimals.isSome ∨ l.exponent.isSome)
    (negative : Bool) : l.number? negative = (l.double? negative).map .real := by
  rw [Literal.number?, Literal.integer?, if_pos h]

/-- A number is kept as an integer exactly when it has no fraction and no exponent and fits. -/
theorem Literal.number?_eq_integer {l : Literal} {negative : Bool} {n : Int} :
    l.number? negative = some (.integer n) ↔
      l.decimals = none ∧ l.exponent = none ∧
        ((negative = false ∧ n = decimal l.whole ∧ decimal l.whole < Nat.pow 2 64) ∨
          (negative = true ∧ n = -(decimal l.whole : Int) ∧ 0 < decimal l.whole ∧
            decimal l.whole ≤ Nat.pow 2 63)) := by
  have hreal : ∀ o : Option Double, o.map Number.real ≠ some (.integer n) := by
    intro o
    cases o <;> simp
  by_cases htail : l.decimals.isSome ∨ l.exponent.isSome
  · rw [Literal.number?_of_tail htail]
    refine ⟨fun h => absurd h (hreal _), ?_⟩
    rintro ⟨hd, he, -⟩
    simp [hd, he] at htail
  · obtain ⟨hd, he⟩ : l.decimals = none ∧ l.exponent = none := by simpa using htail
    rw [Literal.number?, Literal.integer?, if_neg htail]
    cases negative with
    | false =>
      by_cases hfit : decimal l.whole < Nat.pow 2 64
      · simp [hd, he, hfit, eq_comm]
      · simp [hd, he, hfit]
    | true =>
      by_cases hfit : 0 < decimal l.whole ∧ decimal l.whole ≤ Nat.pow 2 63
      · simp [hd, he, hfit, eq_comm]
      · simp [hd, he, hfit]

/-- The text of a sign that only negative numbers have. -/
def signText (negative : Bool) : List Char := if negative then ['-'] else []

/-- The text of a number, and what it is read as. -/
def NumberText (text : List Char) (n : Number) : Prop :=
  ∃ negative, ∃ l : Literal, l.number? negative = some n ∧ text = signText negative ++ l.text

/-- The text of an integer from zero to `greatest`, without sign, fraction and exponent. -/
def CountText (greatest : Nat) (text : List Char) (n : Nat) : Prop :=
  Whole text ∧ n = decimal text ∧ n ≤ greatest

/-- The text of a count of at most so much. -/
def CountUpTo (greatest : Nat) (t : List Char) : Prop := ∃ n, CountText greatest t n

theorem CountText.lt {k n : Nat} {t : List Char} (h : CountText (k - 1) t n) (hk : 0 < k) :
    n < k := by
  have hle := h.2.2
  omega

/-! ## Arrays and objects -/

/-- What follows an opening bracket, or an item behind it, up to the closing bracket: items of
`S` separated by commas. -/
inductive Items (S : List Char → α → Prop) (close : Char) : Bool → List Char → List α → Prop where
  | close {first : Bool} {blanks : List Char} (hb : Blanks blanks) :
      Items S close first (blanks ++ [close]) []
  | first {t rest : List Char} {a : α} {more : List α} (ht : Padded S t a)
      (h : Items S close false rest more) : Items S close true (t ++ rest) (a :: more)
  | next {blanks t rest : List Char} {a : α} {more : List α} (hb : Blanks blanks)
      (ht : Padded S t a) (h : Items S close false rest more) :
      Items S close false (blanks ++ ',' :: (t ++ rest)) (a :: more)

/-- The text of an array with items of `S`. -/
def ArrayText (S : List Char → α → Prop) (text : List Char) (items : List α) : Prop :=
  ∃ body, Items S ']' true body items ∧ text = '[' :: body

/-- The text of a member: a key of `K`, a colon and a value of `S`. -/
def MemberText (K : List Char → κ → Prop) (S : List Char → α → Prop) (text : List Char)
    (member : κ × α) : Prop :=
  ∃ key blanks t, K key member.1 ∧ Blanks blanks ∧ Padded S t member.2 ∧
    text = key ++ (blanks ++ ':' :: t)

/-- The text of an object with keys of `K` and values of `S`, its members in the order of the
text. -/
def ObjectText (K : List Char → κ → Prop) (S : List Char → α → Prop) (text : List Char)
    (members : List (κ × α)) : Prop :=
  ∃ body, Items (MemberText K S) '\x7d' true body members ∧ text = '\x7b' :: body

/-! ## Values -/

/-- The text of a value without brackets. -/
inductive ScalarText : List Char → Value → Prop where
  | null : ScalarText ['n', 'u', 'l', 'l'] .null
  | yes : ScalarText ['t', 'r', 'u', 'e'] (.boolean true)
  | no : ScalarText ['f', 'a', 'l', 's', 'e'] (.boolean false)
  | number {text : List Char} {n : Number} (h : NumberText text n) : ScalarText text (.number n)
  | text {text : List Char} {s : String} (h : StringText text s) : ScalarText text (.text s)

/-- The text of a value with at most `depth` brackets inside each other. The members of every
object in it stand as `order` demands; of a key given twice the last value counts. -/
def Spells (order : Members → Prop) : (depth : Nat) → List Char → Value → Prop
  | 0, text, v => ScalarText text v
  | depth + 1, text, v =>
    ScalarText text v ∨
      (∃ items, ArrayText (Spells order depth) text items ∧ v = .array items) ∨
      ∃ written, ObjectText StringText (Spells order depth) text written ∧
        order written ∧ v = .object (Members.ofList written)

/-- The members of an object that a text spells are the mapping of what is written there. -/
theorem Spells.exists_ofList {order : Members → Prop} {depth : Nat} {text : List Char}
    {members : Members} (h : Spells order depth text (.object members)) :
    ∃ written, members = Members.ofList written := by
  cases depth with
  | zero => cases h
  | succ depth =>
    rcases h with h | ⟨items, -, h⟩ | ⟨written, -, -, h⟩
    · cases h
    · cases h
    · exact ⟨written, Value.object.inj h⟩

/-- Members in any order. -/
def AnyOrder (_ : Members) : Prop := True

/-- The text of one value, of any depth and with numbers of any size. -/
inductive LooseText : List Char → Prop where
  | null : LooseText ['n', 'u', 'l', 'l']
  | yes : LooseText ['t', 'r', 'u', 'e']
  | no : LooseText ['f', 'a', 'l', 's', 'e']
  | number (negative : Bool) (l : Literal) : LooseText (signText negative ++ l.text)
  | text {text : List Char} (h : LooseString text) : LooseText text
  | array {text : List Char} {items : List (List Char)} (ht : ArrayText Eq text items)
      (h : ∀ item ∈ items, LooseText item) : LooseText text
  | object {text : List Char} {members : List (List Char × List Char)}
      (ht : ObjectText Eq Eq text members) (hk : ∀ m ∈ members, LooseString m.1)
      (h : ∀ m ∈ members, LooseText m.2) : LooseText text

/-- A count is the text of a number, so of a value. -/
theorem CountText.loose {greatest : Nat} {t : List Char} {n : Nat} (h : CountText greatest t n) :
    LooseText t := by
  have hnumber := LooseText.number false ⟨t, none, none, h.1, by simp⟩
  simpa [signText, Literal.text, Literal.tail, decimalsText, exponentText] using hnumber

/-- The text of one value, taken as it stands. -/
def Verbatim (text t : List Char) : Prop := LooseText text ∧ t = text

end RevisionControl.Json
