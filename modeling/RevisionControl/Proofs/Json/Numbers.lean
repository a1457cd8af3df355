import RevisionControl.Proofs.Json.Readers

/-!
# Numbers are read by their grammar

`number` takes the numbers that are in range and gives what they are kept as, `skipNumber` takes
every number. Both go through a number in the same way, past the digits before the point
(`leading`), a fraction (`fractionThen`) and an exponent (`exponentThen`), and differ in what they
do with the digits, which is a parameter there.
-/

namespace RevisionControl.Json.Reader

open RevisionControl.Decimal

variable {β : Type}

/-! ## Digits -/

theorem le_foldl_digits (digits : List Char) (n : Nat) :
    n ≤ digits.foldl (fun n d => n * 10 + digitValue d) n := by
  induction digits generalizing n with
  | nil => exact Nat.le_refl n
  | cons d more ih =>
    have hnext := ih (n * 10 + digitValue d)
    simp only [List.foldl_cons]
    omega

/-- Digits that all fit are appended. -/
theorem appendDigits_of_le {limit : Nat} {digits : List Char} {n : Nat}
    (h : digits.foldl (fun n d => n * 10 + digitValue d) n ≤ limit) :
    appendDigits limit n digits =
      (digits.foldl (fun n d => n * 10 + digitValue d) n, []) := by
  induction digits generalizing n with
  | nil => rfl
  | cons d more ih =>
    simp only [List.foldl_cons] at h ⊢
    have hle := le_foldl_digits more (n * 10 + digitValue d)
    rw [appendDigits, if_neg (by omega), ih h]

/-- Digits are left over where they do not all fit. -/
theorem appendDigits_of_lt {limit : Nat} {digits : List Char} {n : Nat} (hn : n ≤ limit)
    (h : limit < digits.foldl (fun n d => n * 10 + digitValue d) n) :
    (appendDigits limit n digits).2 ≠ [] := by
  induction digits generalizing n with
  | nil =>
    simp only [List.foldl_nil] at h
    omega
  | cons d more ih =>
    rw [appendDigits]
    split
    · simp
    · next hfit => exact ih (by omega) h

/-- Digits that are taken behind a look at the first of them are all that are there. -/
theorem takeDigits_ok {d : Char} {text digits : List Char} {p : Position} {c' : Cursor}
    (hd : isDigit d = true) (h : takeWhile isDigit ⟨d :: text, p⟩ = .ok (digits, c')) :
    Digits digits ∧ d :: text = digits ++ c'.rest := by
  obtain ⟨hsplit, hall, hno⟩ := takeWhile_ok h
  refine ⟨⟨?_, hall⟩, hsplit⟩
  rintro rfl
  have hdno : isDigit d = false := hno d (by rw [← List.nil_append c'.rest, ← hsplit]; rfl)
  rw [hd] at hdno
  cases hdno

/-! ## The digits before the point -/

/-- Takes the digits before the point and goes on with them. -/
def leading (atEnd : Cause) (k : List Char → Reader β) : Reader β := do
  match ← peek? with
  | none => failHere atEnd
  | some c =>
    if !isDigit c then failAhead .invalidNumber
    else if c = '0' then do
      skip
      match ← peek? with
      | some d => if isDigit d then failAhead .invalidNumber else k ['0']
      | none => k ['0']
    else do
      let digits ← takeWhile isDigit
      k digits

theorem number_eq_leading (negative : Bool) :
    number negative = leading .endInValue fun whole =>
      number.behind negative (appendDigits greatestSignificand 0 whole).1
        (appendDigits greatestSignificand 0 whole).2 := rfl

theorem skipNumber_eq_leading :
    skipNumber = leading .invalidNumber fun _ => skipNumber.behind := rfl

/-- The digits before the point are taken if no digit follows. -/
theorem leading_append (atEnd : Cause) (k : List Char → Reader β) {whole rest : List Char}
    (hw : Whole whole) (hr : NoDigit rest) (p : Position) :
    ∃ p', leading atEnd k ⟨whole ++ rest, p⟩ = k whole ⟨rest, p'⟩ := by
  rw [leading, peek?_bind]
  rcases hw with rfl | ⟨hdigits, hzero⟩
  · have h0 : isDigit '0' = true := by decide
    simp only [List.cons_append, List.nil_append, List.head?_cons, h0, Bool.not_true,
      Bool.false_eq_true, if_false, if_true, skip_bind, peek?_bind]
    cases rest with
    | nil => exact ⟨_, rfl⟩
    | cons x more =>
      have hx : isDigit x = false := hr x rfl
      simp only [List.head?_cons, hx, Bool.false_eq_true, if_false]
      exact ⟨_, rfl⟩
  · obtain ⟨d, more, rfl, hd⟩ := hdigits.cons
    have hd0 : ¬ d = '0' := by
      rintro rfl
      exact hzero rfl
    simp only [List.cons_append, List.head?_cons, hd, Bool.not_true, Bool.false_eq_true, if_false,
      if_neg hd0]
    rw [← List.cons_append, bind_of_ok (takeWhile_append hdigits.2 hr)]
    exact ⟨_, rfl⟩

/-- A reader that has gone on behind digits has taken all digits before the point. -/
theorem leading_ok {atEnd : Cause} {k : List Char → Reader β} {c c' : Cursor} {b : β}
    (h : leading atEnd k c = .ok (b, c')) :
    ∃ whole c₁, Whole whole ∧ c.rest = whole ++ c₁.rest ∧ k whole c₁ = .ok (b, c') := by
  obtain ⟨text, p⟩ := c
  rw [leading, peek?_bind] at h
  cases text with
  | nil => simp at h
  | cons x rest =>
    simp only [List.head?_cons] at h
    split at h
    · simp at h
    next hx =>
    have hdigit : isDigit x = true := by simpa using hx
    split at h
    · next hzero =>
      subst hzero
      rw [skip_bind, peek?_bind] at h
      refine ⟨['0'], ⟨rest, p.after '0'⟩, .inl rfl, rfl, ?_⟩
      cases rest with
      | nil => exact h
      | cons y more =>
        simp only [List.head?_cons] at h
        split at h
        · simp at h
        · exact h
    · next hzero =>
      obtain ⟨digits, c₁, htake, h⟩ := bind_ok.mp h
      obtain ⟨hdigits, hrest⟩ := takeDigits_ok hdigit htake
      obtain ⟨d, more, rfl, -⟩ := hdigits.cons
      have hdx : x = d := (List.cons.inj hrest).1
      exact ⟨_, c₁, .inr ⟨hdigits, by simpa [← hdx] using hzero⟩, hrest, h⟩

/-! ## Exponents -/

theorem exponentSign_cons (x : Char) (rest : List Char) (p : Position) :
    exponentSign ⟨x :: rest, p⟩ =
      if x = '+' then .ok (false, ⟨rest, p.after x⟩)
      else if x = '-' then .ok (true, ⟨rest, p.after x⟩)
      else .ok (false, ⟨x :: rest, p⟩) := by
  rw [exponentSign, peek?_bind]
  by_cases hplus : x = '+'
  · subst hplus
    rfl
  by_cases hminus : x = '-'
  · subst hminus
    rfl
  simp [hplus, hminus]

/-- The sign of an exponent is taken, if there is one: no digit is mistaken for it. -/
theorem exponentSign_append (e : Exponent) (rest : List Char) (p : Position) :
    ∃ p', exponentSign ⟨e.sign ++ (e.digits ++ rest), p⟩ =
      .ok (e.below, ⟨e.digits ++ rest, p'⟩) := by
  rcases e.sign_eq with hs | hs | hs
  · obtain ⟨d, more, hdigits, hd⟩ := e.digits_ok.cons
    have hplus : ¬ d = '+' := by
      rintro rfl
      exact absurd hd (by decide)
    have hminus : ¬ d = '-' := by
      rintro rfl
      exact absurd hd (by decide)
    rw [Exponent.below, hs, hdigits, List.nil_append, List.cons_append, exponentSign_cons,
      if_neg hplus, if_neg hminus]
    exact ⟨_, rfl⟩
  · rw [Exponent.below, hs, List.cons_append, exponentSign_cons]
    exact ⟨_, rfl⟩
  · rw [Exponent.below, hs, List.cons_append, exponentSign_cons]
    exact ⟨_, rfl⟩

theorem exponentSign_ok {below : Bool} {c c' : Cursor} (h : exponentSign c = .ok (below, c')) :
    ∃ sign, (sign = [] ∨ sign = ['+'] ∨ sign = ['-']) ∧ below = decide (sign = ['-']) ∧
      c.rest = sign ++ c'.rest := by
  obtain ⟨text, p⟩ := c
  cases text with
  | nil =>
    cases h
    exact ⟨[], by simp, by decide, rfl⟩
  | cons x rest =>
    rw [exponentSign_cons] at h
    split at h
    · next hplus =>
      cases h
      exact ⟨['+'], by simp, by decide, by rw [hplus]; rfl⟩
    · split at h
      · next hminus =>
        cases h
        exact ⟨['-'], by simp, by decide, by rw [hminus]; rfl⟩
      · cases h
        exact ⟨[], by simp, by decide, rfl⟩

theorem real_ok {negative : Bool} {n : Nat} {power : Int} {v : Number} {c c' : Cursor} :
    real negative n power c = .ok (v, c') ↔
      (Double.ofScaled n power).map (fun x => .real (x.withSign negative)) = some v ∧ c = c' := by
  rw [real]
  cases Double.ofScaled n power with
  | none => simp
  | some x => simp

/-- Takes an exponent, the letter of which is ahead, and goes on with its sign and its digits and
where they start. -/
def exponentThen (atEnd : Cause) (k : Bool → Cursor → List Char → Reader β) : Reader β := do
  skip
  let below ← exponentSign
  match ← peek? with
  | none => failHere atEnd
  | some c =>
    if !isDigit c then failAhead .invalidNumber
    else do
      let before ← get
      let digits ← takeWhile isDigit
      k below before digits

/-- An exponent is taken if no digit follows. -/
theorem exponentThen_append (atEnd : Cause) (k : Bool → Cursor → List Char → Reader β)
    (e : Exponent) {rest : List Char} (hr : NoDigit rest) (p : Position) :
    ∃ before p', exponentThen atEnd k ⟨e.text ++ rest, p⟩ =
      k e.below before e.digits ⟨rest, p'⟩ := by
  obtain ⟨d, more, hdigits, hd⟩ := e.digits_ok.cons
  obtain ⟨q, hq⟩ := exponentSign_append e rest (p.after e.letter)
  have hhead : (e.digits ++ rest).head? = some d := by rw [hdigits]; rfl
  have hget : get (m := Reader) ⟨e.digits ++ rest, q⟩ = .ok (_, _) := rfl
  rw [exponentThen, Exponent.text, List.cons_append, List.append_assoc, skip_bind, bind_of_ok hq,
    peek?_bind]
  simp only [hhead, hd, Bool.not_true, Bool.false_eq_true, if_false]
  rw [bind_of_ok hget, bind_of_ok (takeWhile_append e.digits_ok.2 hr)]
  exact ⟨_, _, rfl⟩

/-- A reader that has gone on behind an exponent has taken one. -/
theorem exponentThen_ok {atEnd : Cause} {k : Bool → Cursor → List Char → Reader β} {letter : Char}
    {rest : List Char} {p : Position} {b : β} {c' : Cursor} (hletter : letter = 'e' ∨ letter = 'E')
    (h : exponentThen atEnd k ⟨letter :: rest, p⟩ = .ok (b, c')) :
    ∃ (e : Exponent) (before c₁ : Cursor), letter :: rest = e.text ++ c₁.rest ∧
      k e.below before e.digits c₁ = .ok (b, c') := by
  rw [exponentThen, skip_bind] at h
  obtain ⟨below, ⟨text, q⟩, hsign, h⟩ := bind_ok.mp h
  obtain ⟨sign, hsigns, rfl, hrest⟩ := exponentSign_ok hsign
  rw [peek?_bind] at h
  cases text with
  | nil => simp at h
  | cons d text =>
    simp only [List.head?_cons] at h
    rcases if_ok.mp h with ⟨-, h⟩ | ⟨hd, h⟩
    · exact absurd h (Never.failAhead _ _ _ _)
    obtain ⟨before, c₁, hget, h⟩ := bind_ok.mp h
    cases hget
    obtain ⟨digits, c₂, htake, h⟩ := bind_ok.mp h
    obtain ⟨hdigits, hsplit⟩ := takeDigits_ok (by simpa using hd) htake
    refine ⟨⟨letter, sign, digits, hletter, hsigns, hdigits⟩, _, c₂, ?_, h⟩
    simp only at hrest
    simp only [Exponent.text, List.cons_append, List.append_assoc, hrest, hsplit]

/-- Makes the number for an exponent whose sign and digits are known. -/
def scaledBy (negative : Bool) (n : Nat) (power : Int) (below : Bool) (before : Cursor)
    (digits : List Char) : Reader Number :=
  match appendDigits greatestExponent 0 digits with
  | (k, []) => real negative n (if below then power - k else power + k)
  | (_, _ :: more) =>
    if n ≠ 0 ∧ !below then
      fun _ => .error ⟨.numberOutOfRange,
        some ((digits.take (digits.length - more.length)).foldl Position.after before.position)⟩
    else return .real (Double.zero.withSign negative)

theorem exponent_eq (negative : Bool) (n : Nat) (power : Int) :
    exponent negative n power = exponentThen .endInValue (scaledBy negative n power) := rfl

/-- The number is the one that the exponent gives, if it is in range. -/
theorem scaledBy_ok {e : Exponent} {negative : Bool} {n : Nat} {power : Int} {before : Cursor}
    {v : Number} {c c' : Cursor} :
    scaledBy negative n power e.below before e.digits c = .ok (v, c') ↔
      (e.double? negative n power).map .real = some v ∧ c = c' := by
  rw [scaledBy, Exponent.double?]
  rcases appendDigits greatestExponent 0 e.digits with ⟨k, left⟩
  cases left with
  | nil =>
    simp only [real_ok, Option.map_map]
    rfl
  | cons y more =>
    by_cases hgreat : n ≠ 0 ∧ (!e.below) = true
    · simp [hgreat]
    · simp only [if_neg hgreat, pure_ok, Option.map_some, Option.some.injEq]

theorem exponent_append (e : Exponent) {negative : Bool} {n : Nat} {power : Int} {x : Double}
    (hx : e.double? negative n power = some x) {rest : List Char} (hr : NoDigit rest)
    (p : Position) :
    ∃ p', exponent negative n power ⟨e.text ++ rest, p⟩ = .ok (.real x, ⟨rest, p'⟩) := by
  obtain ⟨before, p', hp⟩ :=
    exponentThen_append .endInValue (scaledBy negative n power) e hr p
  rw [exponent_eq, hp]
  exact ⟨p', scaledBy_ok.mpr ⟨by rw [hx]; rfl, rfl⟩⟩

theorem exponent_ok {letter : Char} {rest : List Char} {p : Position} {negative : Bool} {n : Nat}
    {power : Int} {v : Number} {c' : Cursor} (hletter : letter = 'e' ∨ letter = 'E')
    (h : exponent negative n power ⟨letter :: rest, p⟩ = .ok (v, c')) :
    ∃ e : Exponent, (e.double? negative n power).map .real = some v ∧
      letter :: rest = e.text ++ c'.rest := by
  rw [exponent_eq] at h
  obtain ⟨e, before, c₁, hrest, h⟩ := exponentThen_ok hletter h
  obtain ⟨hv, rfl⟩ := scaledBy_ok.mp h
  exact ⟨e, hv, hrest⟩

/-! ## What follows the digits -/

/-- Goes on by whether an exponent is ahead. -/
def atExponent (k₁ k₂ : Reader β) : Reader β := do
  match ← peek? with
  | some 'e' | some 'E' => k₁
  | _ => k₂

theorem atExponent_of_ends {k₁ k₂ : Reader β} {rest : List Char} (hr : Ends rest) (p : Position) :
    atExponent k₁ k₂ ⟨rest, p⟩ = k₂ ⟨rest, p⟩ := by
  rw [atExponent, peek?_bind]
  cases rest with
  | nil => rfl
  | cons x more =>
    obtain ⟨-, -, he, hE⟩ := hr x rfl
    simp [he, hE]

theorem atExponent_append {k₁ k₂ : Reader β} (e : Exponent) (rest : List Char) (p : Position) :
    atExponent k₁ k₂ ⟨e.text ++ rest, p⟩ = k₁ ⟨e.text ++ rest, p⟩ := by
  rw [atExponent, peek?_bind, Exponent.text]
  rcases e.letter_eq with he | he <;> rw [he] <;> rfl

theorem atExponent_ok {k₁ k₂ : Reader β} {c c' : Cursor} {b : β}
    (h : atExponent k₁ k₂ c = .ok (b, c')) :
    (∃ letter rest, (letter = 'e' ∨ letter = 'E') ∧ c.rest = letter :: rest ∧
      k₁ c = .ok (b, c')) ∨ k₂ c = .ok (b, c') := by
  obtain ⟨text, p⟩ := c
  rw [atExponent, peek?_bind] at h
  cases text with
  | nil => exact .inr h
  | cons x rest =>
    by_cases he : x = 'e'
    · subst he
      exact .inl ⟨_, rest, .inl rfl, rfl, h⟩
    by_cases hE : x = 'E'
    · subst hE
      exact .inl ⟨_, rest, .inr rfl, rfl, h⟩
    simp only [List.head?_cons] at h
    exact .inr (by simpa [he, hE] using h)

/-- Goes on by whether a point or an exponent is ahead. -/
def atPoint (k₀ k₁ k₂ : Reader β) : Reader β := do
  match ← peek? with
  | some '.' => k₀
  | some 'e' | some 'E' => k₁
  | _ => k₂

theorem atPoint_point {k₀ k₁ k₂ : Reader β} (rest : List Char) (p : Position) :
    atPoint k₀ k₁ k₂ ⟨'.' :: rest, p⟩ = k₀ ⟨'.' :: rest, p⟩ := rfl

/-- Where no point is ahead it is the exponent that decides. -/
theorem atPoint_eq_atExponent {k₀ k₁ k₂ : Reader β} {c : Cursor} (h : c.rest.head? ≠ some '.') :
    atPoint k₀ k₁ k₂ c = atExponent k₁ k₂ c := by
  obtain ⟨text, p⟩ := c
  rw [atPoint, atExponent, peek?_bind, peek?_bind]
  cases text with
  | nil => rfl
  | cons x rest =>
    have hx : ¬ x = '.' := by
      rintro rfl
      exact h rfl
    by_cases he : x = 'e'
    · subst he
      rfl
    by_cases hE : x = 'E'
    · subst hE
      rfl
    simp [hx, he, hE]

theorem number_behind_eq (negative : Bool) (n : Nat) (left : List Char) :
    number.behind negative n left =
      atPoint (fraction negative n left.length) (exponent negative n left.length)
        (if left.isEmpty then integer negative n else real negative n left.length) := rfl

/-- What may follow the digits of a number that is read: its exponent decides. -/
theorem ending_append {negative : Bool} {n : Nat} {power : Int} {ex : Option Exponent}
    {x : Double} (hx : powered? negative n power ex = some x) {rest : List Char} (hr : Ends rest)
    (p : Position) :
    ∃ p', atExponent (exponent negative n power) (real negative n power)
      ⟨exponentText ex ++ rest, p⟩ = .ok (.real x, ⟨rest, p'⟩) := by
  cases ex with
  | none =>
    obtain ⟨y, hy, rfl⟩ := Option.map_eq_some_iff.mp hx
    refine ⟨p, ?_⟩
    rw [exponentText, List.nil_append, atExponent_of_ends hr]
    exact real_ok.mpr ⟨by rw [hy]; rfl, rfl⟩
  | some e =>
    rw [exponentText, atExponent_append]
    exact exponent_append e hx hr.noDigit p

/-- What has been read behind the digits of a number is an exponent, or nothing. -/
theorem ending_ok {negative : Bool} {n : Nat} {power : Int} {c c' : Cursor} {v : Number}
    (h : atExponent (exponent negative n power) (real negative n power) c = .ok (v, c')) :
    ∃ ex, (powered? negative n power ex).map .real = some v ∧
      c.rest = exponentText ex ++ c'.rest := by
  rcases atExponent_ok h with ⟨letter, rest, hletter, hc, h⟩ | h
  · obtain ⟨text, p⟩ := c
    obtain rfl : text = letter :: rest := hc
    obtain ⟨e, hv, hrest⟩ := exponent_ok hletter h
    exact ⟨some e, hv, hrest⟩
  · obtain ⟨hv, rfl⟩ := real_ok.mp h
    refine ⟨none, ?_, rfl⟩
    rw [powered?, Option.map_map, ← hv]
    rfl

/-! ## Fractions -/

/-- Takes a fraction, the point of which is ahead, and goes on with its digits. -/
def fractionThen (refuse : Reader β) (k : List Char → Reader β) : Reader β := do
  skip
  let digits ← takeWhile isDigit
  if digits.isEmpty then refuse else k digits

/-- A fraction is taken if no digit follows. -/
theorem fractionThen_append (refuse : Reader β) (k : List Char → Reader β) {digits rest : List Char}
    (hdigits : Digits digits) (hr : NoDigit rest) (p : Position) :
    ∃ p', fractionThen refuse k ⟨'.' :: (digits ++ rest), p⟩ = k digits ⟨rest, p'⟩ := by
  have hne : digits.isEmpty = false := by simpa using hdigits.1
  rw [fractionThen, skip_bind, bind_of_ok (takeWhile_append hdigits.2 hr)]
  simp only [hne, Bool.false_eq_true, if_false]
  exact ⟨_, rfl⟩

/-- A reader that has gone on behind a fraction has taken its digits. -/
theorem fractionThen_ok {refuse : Reader β} (hrefuse : Never refuse) {k : List Char → Reader β}
    {rest : List Char} {p : Position} {b : β} {c' : Cursor}
    (h : fractionThen refuse k ⟨'.' :: rest, p⟩ = .ok (b, c')) :
    ∃ digits c₁, Digits digits ∧ rest = digits ++ c₁.rest ∧ k digits c₁ = .ok (b, c') := by
  rw [fractionThen, skip_bind] at h
  obtain ⟨digits, c₁, htake, h⟩ := bind_ok.mp h
  obtain ⟨hsplit, hall, -⟩ := takeWhile_ok htake
  rcases if_ok.mp h with ⟨-, h⟩ | ⟨hne, h⟩
  · exact absurd h (hrefuse _ _ _)
  · exact ⟨digits, c₁, ⟨by simpa using hne, hall⟩, hsplit, h⟩

theorem fraction_eq (negative : Bool) (n : Nat) (power : Int) :
    fraction negative n power =
      fractionThen
        (do
          match ← peek? with
          | none => failHere .endInValue
          | some _ => failAhead .invalidNumber)
        fun digits =>
          let m := (appendDigits greatestSignificand n digits).1
          let beyond := (appendDigits greatestSignificand n digits).2
          atExponent (exponent negative m (power - (digits.length - beyond.length : Nat)))
            (real negative m (power - (digits.length - beyond.length : Nat))) := rfl

/-! ## Whole numbers -/

theorem greatestSignificand_succ : greatestSignificand + 1 = Nat.pow 2 64 := by decide

/-- The double-precision number of a number without fraction and exponent. -/
theorem double?_whole {l : Literal} (hd : l.decimals = none) (he : l.exponent = none)
    (negative : Bool) :
    l.double? negative =
      (Double.ofScaled (appendDigits greatestSignificand 0 l.whole).1
        (appendDigits greatestSignificand 0 l.whole).2.length).map (·.withSign negative) := by
  rw [Literal.double?, Literal.scaled, hd, he]
  rfl

/-- A number whose digits fit the significand is an integer, but for a zero with a minus sign and
for what lies below `-2 ^ 63`. -/
theorem integer_ok_of_le {l : Literal} (hd : l.decimals = none) (he : l.exponent = none)
    (hfit : decimal l.whole ≤ greatestSignificand) {negative : Bool} {v : Number}
    {c c' : Cursor} :
    integer negative (decimal l.whole) c = .ok (v, c') ↔ l.number? negative = some v ∧ c = c' := by
  have happ : appendDigits greatestSignificand 0 l.whole = (decimal l.whole, []) :=
    appendDigits_of_le hfit
  have htail : ¬ (l.decimals.isSome = true ∨ l.exponent.isSome = true) := by simp [hd, he]
  rw [Literal.number?, double?_whole hd he, happ, Literal.integer?, if_neg htail, integer]
  cases negative with
  | false =>
    have hlt : decimal l.whole < Nat.pow 2 64 := by
      have hsucc := greatestSignificand_succ
      omega
    simp [hlt]
  | true =>
    by_cases hsmall : 0 < decimal l.whole ∧ decimal l.whole ≤ Nat.pow 2 63
    · have hne : decimal l.whole ≠ 0 ∧ decimal l.whole ≤ Nat.pow 2 63 := by omega
      simp [hsmall, hne]
    · have hne : ¬ (decimal l.whole ≠ 0 ∧ decimal l.whole ≤ Nat.pow 2 63) := by omega
      simp only [Bool.not_true, Bool.false_eq_true, if_false, if_true, if_neg hne, if_neg hsmall,
        real_ok, Option.map_map, List.length_nil]
      rfl

/-- A number whose digits do not fit the significand is real. -/
theorem real_ok_of_lt {l : Literal} (hd : l.decimals = none) (he : l.exponent = none)
    (hgreat : greatestSignificand < decimal l.whole) {negative : Bool} {v : Number}
    {c c' : Cursor} :
    real negative (appendDigits greatestSignificand 0 l.whole).1
      (appendDigits greatestSignificand 0 l.whole).2.length c = .ok (v, c') ↔
      l.number? negative = some v ∧ c = c' := by
  have hsucc := greatestSignificand_succ
  have hhalf : Nat.pow 2 63 < Nat.pow 2 64 := by decide
  have htail : ¬ (l.decimals.isSome = true ∨ l.exponent.isSome = true) := by simp [hd, he]
  have hlarge : ¬ decimal l.whole < Nat.pow 2 64 := by omega
  have hlarge' : ¬ (0 < decimal l.whole ∧ decimal l.whole ≤ Nat.pow 2 63) := by omega
  rw [Literal.number?, double?_whole hd he, Literal.integer?, if_neg htail]
  simp only [real_ok, if_neg hlarge, if_neg hlarge', ite_self, Option.map_map]
  rfl

/-- A number without fraction and exponent is what its digits come to. -/
theorem integer_ok {l : Literal} (hd : l.decimals = none) (he : l.exponent = none)
    {negative : Bool} {v : Number} {c c' : Cursor} :
    (if (appendDigits greatestSignificand 0 l.whole).2.isEmpty
      then integer negative (appendDigits greatestSignificand 0 l.whole).1
      else real negative (appendDigits greatestSignificand 0 l.whole).1
        (appendDigits greatestSignificand 0 l.whole).2.length) c = .ok (v, c') ↔
      l.number? negative = some v ∧ c = c' := by
  by_cases hfit : decimal l.whole ≤ greatestSignificand
  · have happ : appendDigits greatestSignificand 0 l.whole = (decimal l.whole, []) :=
      appendDigits_of_le hfit
    simp only [happ, List.isEmpty_nil, if_true]
    exact integer_ok_of_le hd he hfit
  · have hgreat : greatestSignificand < decimal l.whole := Nat.lt_of_not_le hfit
    have hleft : (appendDigits greatestSignificand 0 l.whole).2.isEmpty = false := by
      have hne := appendDigits_of_lt (n := 0) (Nat.zero_le _) hgreat
      simpa using hne
    simp only [hleft, Bool.false_eq_true, if_false]
    exact real_ok_of_lt hd he hgreat

/-- What follows the digits before the point is read if the number is in range. -/
theorem behind_append (l : Literal) {negative : Bool} {v : Number}
    (hv : l.number? negative = some v) {rest : List Char} (hr : Ends rest) (p : Position) :
    ∃ p', number.behind negative (appendDigits greatestSignificand 0 l.whole).1
      (appendDigits greatestSignificand 0 l.whole).2 ⟨l.tail ++ rest, p⟩ =
        .ok (v, ⟨rest, p'⟩) := by
  obtain ⟨hnodigit, hnopoint⟩ := exponentText_head l.exponent hr
  rw [number_behind_eq, Literal.tail, List.append_assoc]
  cases hd : l.decimals with
  | none =>
    rw [decimalsText, List.nil_append, atPoint_eq_atExponent hnopoint]
    cases he : l.exponent with
    | none =>
      rw [exponentText, List.nil_append, atExponent_of_ends hr]
      exact ⟨p, (integer_ok hd he).mpr ⟨hv, rfl⟩⟩
    | some e =>
      rw [Literal.number?_of_tail (by simp [he])] at hv
      obtain ⟨x, hx, rfl⟩ := Option.map_eq_some_iff.mp hv
      rw [Literal.double?, Literal.scaled, hd, he] at hx
      rw [exponentText, atExponent_append]
      exact exponent_append e hx hr.noDigit p
  | some digits =>
    rw [Literal.number?_of_tail (by simp [hd])] at hv
    obtain ⟨x, hx, rfl⟩ := Option.map_eq_some_iff.mp hv
    rw [Literal.double?, Literal.scaled, hd] at hx
    rw [decimalsText, List.cons_append, atPoint_point, fraction_eq]
    obtain ⟨q, hq⟩ := fractionThen_append _ _ (l.decimals_ok digits hd) hnodigit p
    rw [hq]
    exact ending_append hx hr q

/-- What has been read behind the digits before the point makes a number of them. -/
theorem behind_ok {whole : List Char} (hw : Whole whole) {negative : Bool} {v : Number}
    {c c' : Cursor}
    (h : number.behind negative (appendDigits greatestSignificand 0 whole).1
      (appendDigits greatestSignificand 0 whole).2 c = .ok (v, c')) :
    ∃ l : Literal, l.whole = whole ∧ l.number? negative = some v ∧ c.rest = l.tail ++ c'.rest := by
  obtain ⟨text, p⟩ := c
  rw [number_behind_eq] at h
  by_cases hpoint : text.head? = some '.'
  · obtain ⟨rest, rfl⟩ := List.head?_eq_some_iff.mp hpoint
    have hrefuse : Never (do
        match ← peek? with
        | none => failHere .endInValue
        | some _ => failAhead .invalidNumber : Reader Number) := by
      refine .bind fun ahead => ?_
      cases ahead with
      | none => exact .failHere _
      | some x => exact .failAhead _
    rw [atPoint_point, fraction_eq] at h
    obtain ⟨digits, c₁, hdigits, hrest, h⟩ := fractionThen_ok hrefuse h
    obtain ⟨ex, hv, hc₁⟩ := ending_ok h
    refine ⟨⟨whole, some digits, ex, hw, by simpa using hdigits⟩, rfl, ?_, ?_⟩
    · rw [Literal.number?_of_tail (.inl rfl)]
      exact hv
    · simp only [Literal.tail, decimalsText, List.cons_append, List.append_assoc, hrest, hc₁]
  · rw [atPoint_eq_atExponent hpoint] at h
    rcases atExponent_ok h with ⟨letter, rest, hletter, rfl, h⟩ | h
    · obtain ⟨e, hv, hrest⟩ := exponent_ok hletter h
      refine ⟨⟨whole, none, some e, hw, by simp⟩, rfl, ?_, hrest⟩
      rw [Literal.number?_of_tail (.inr rfl)]
      exact hv
    · let l : Literal := ⟨whole, none, none, hw, by simp⟩
      obtain ⟨hv, rfl⟩ := (integer_ok (l := l) rfl rfl).mp h
      exact ⟨l, rfl, hv, rfl⟩

/-- A number is read, its sign apart, exactly if it is one and in range. -/
theorem takes_number (negative : Bool) :
    Takes (number negative) fun t v => ∃ l : Literal, l.number? negative = some v ∧ t = l.text where
  sound h := by
    rw [number_eq_leading] at h
    obtain ⟨whole, c₁, hw, hc, h⟩ := leading_ok h
    obtain ⟨l, rfl, hv, hrest⟩ := behind_ok hw h
    exact ⟨l.text, ⟨l, hv, rfl⟩, by rw [hc, hrest, Literal.text, List.append_assoc]⟩
  complete := by
    rintro t rest v ⟨l, hv, rfl⟩ hr p
    have hnodigit : NoDigit (l.tail ++ rest) := l.noDigit_tail hr
    obtain ⟨q, hq⟩ := leading_append .endInValue
      (fun whole => number.behind negative (appendDigits greatestSignificand 0 whole).1
        (appendDigits greatestSignificand 0 whole).2) l.whole_ok hnodigit p
    obtain ⟨p', hp⟩ := behind_append l hv hr q
    exact ⟨p', by rw [number_eq_leading, Literal.text, List.append_assoc, hq, hp]⟩

/-! ## Skipped numbers -/

theorem skipExponent_eq :
    skipExponent = exponentThen .invalidNumber fun _ _ _ => return () := by
  rw [skipExponent, exponentThen]
  refine bind_congr fun _ => bind_congr fun below => bind_congr fun ahead => ?_
  cases ahead with
  | none => rfl
  | some x =>
    cases hx : isDigit x with
    | true => simp only [hx, if_true, Bool.not_true, Bool.false_eq_true, if_false]; rfl
    | false => simp only [hx, Bool.false_eq_true, if_false, Bool.not_false, if_true]

theorem skipNumber_behind_eq :
    skipNumber.behind =
      atPoint
        (fractionThen (failAhead .invalidNumber) fun _ => atExponent skipExponent (return ()))
        skipExponent (return ()) := rfl

/-- What may follow the digits of a number that is skipped. -/
theorem skipEnding_append (ex : Option Exponent) {rest : List Char} (hr : Ends rest)
    (p : Position) :
    ∃ p', atExponent skipExponent (return ()) ⟨exponentText ex ++ rest, p⟩ =
      .ok ((), ⟨rest, p'⟩) := by
  cases ex with
  | none =>
    rw [exponentText, List.nil_append, atExponent_of_ends hr]
    exact ⟨p, rfl⟩
  | some e =>
    obtain ⟨before, p', hp⟩ :=
      exponentThen_append .invalidNumber (fun _ _ _ => return ()) e hr.noDigit p
    rw [exponentText, atExponent_append, skipExponent_eq, hp]
    exact ⟨p', rfl⟩

/-- What has been skipped behind the digits of a number is an exponent, or nothing. -/
theorem skipEnding_ok {c c' : Cursor}
    (h : atExponent skipExponent (return ()) c = .ok ((), c')) :
    ∃ ex, c.rest = exponentText ex ++ c'.rest := by
  obtain ⟨text, p⟩ := c
  rcases atExponent_ok h with ⟨letter, rest, hletter, rfl, h⟩ | h
  · rw [skipExponent_eq] at h
    obtain ⟨e, before, c₁, hrest, h⟩ := exponentThen_ok hletter h
    obtain ⟨-, rfl⟩ := pure_ok.mp h
    exact ⟨some e, hrest⟩
  · obtain ⟨-, rfl⟩ := pure_ok.mp h
    exact ⟨none, rfl⟩

theorem skipBehind_append (l : Literal) {rest : List Char} (hr : Ends rest) (p : Position) :
    ∃ p', skipNumber.behind ⟨l.tail ++ rest, p⟩ = .ok ((), ⟨rest, p'⟩) := by
  obtain ⟨hnodigit, hnopoint⟩ := exponentText_head l.exponent hr
  rw [skipNumber_behind_eq, Literal.tail, List.append_assoc]
  cases hd : l.decimals with
  | none =>
    rw [decimalsText, List.nil_append, atPoint_eq_atExponent hnopoint]
    exact skipEnding_append l.exponent hr p
  | some digits =>
    rw [decimalsText, List.cons_append, atPoint_point]
    obtain ⟨q, hq⟩ := fractionThen_append _ _ (l.decimals_ok digits hd) hnodigit p
    rw [hq]
    exact skipEnding_append l.exponent hr q

theorem skipBehind_ok {whole : List Char} (hw : Whole whole) {c c' : Cursor}
    (h : skipNumber.behind c = .ok ((), c')) :
    ∃ l : Literal, l.whole = whole ∧ c.rest = l.tail ++ c'.rest := by
  obtain ⟨text, p⟩ := c
  rw [skipNumber_behind_eq] at h
  by_cases hpoint : text.head? = some '.'
  · obtain ⟨rest, rfl⟩ := List.head?_eq_some_iff.mp hpoint
    rw [atPoint_point] at h
    obtain ⟨digits, c₁, hdigits, hrest, h⟩ := fractionThen_ok (.failAhead _) h
    obtain ⟨ex, hc₁⟩ := skipEnding_ok h
    refine ⟨⟨whole, some digits, ex, hw, by simpa using hdigits⟩, rfl, ?_⟩
    simp only [Literal.tail, decimalsText, List.cons_append, List.append_assoc, hrest, hc₁]
  · rw [atPoint_eq_atExponent hpoint] at h
    obtain ⟨ex, hrest⟩ := skipEnding_ok h
    exact ⟨⟨whole, none, ex, hw, by simp⟩, rfl, hrest⟩

/-- A number is skipped, its sign apart, exactly if it is one. -/
theorem takes_skipNumber : Takes skipNumber fun t _ => ∃ l : Literal, t = l.text where
  sound h := by
    rw [skipNumber_eq_leading] at h
    obtain ⟨whole, c₁, hw, hc, h⟩ := leading_ok h
    obtain ⟨l, rfl, hrest⟩ := skipBehind_ok hw h
    exact ⟨l.text, ⟨l, rfl⟩, by rw [hc, hrest, Literal.text, List.append_assoc]⟩
  complete := by
    rintro t rest - ⟨l, rfl⟩ hr p
    obtain ⟨q, hq⟩ := leading_append .invalidNumber (fun _ => skipNumber.behind)
      l.whole_ok (l.noDigit_tail hr) p
    obtain ⟨p', hp⟩ := skipBehind_append l hr q
    exact ⟨p', by rw [skipNumber_eq_leading, Literal.text, List.append_assoc, hq, hp]⟩

end RevisionControl.Json.Reader
