import RevisionControl.Proofs.Time.Calendar

/-!
# Proofs: the text of a date is read back

A reader for the texts of dates, which follows the format and not the writer: a year of four digits,
or of four and more behind a sign, then fields of two digits, each behind its separator, and the
offset. Every valid date is read back from its text, whatever its year.
-/

namespace RevisionControl.Time.Civil

/-! ## The reader -/

/-- The number that a text starts with, of at least four digits, the count of its digits, and what
follows. -/
def readNumber? (cs : List Char) : Option (Nat × Nat × List Char) :=
  let digits := cs.takeWhile Char.isDigit
  if digits.length < 4 then none
  else some (Nat.ofDigitChars 10 digits 0, digits.length, cs.dropWhile Char.isDigit)

/-- The year that a text starts with, and what follows. Without a sign it has four digits. -/
def readYear? (cs : List Char) : Option (Int × List Char) :=
  if cs.head? = some '-' then (readNumber? cs.tail).map fun (n, _, rest) => (-n, rest)
  else if cs.head? = some '+' then (readNumber? cs.tail).map fun (n, _, rest) => (n, rest)
  else (readNumber? cs).bind fun (n, size, rest) => if size = 4 then some (n, rest) else none

/-- The number of two digits behind a separator, and what follows. -/
def readField? (separator : Char) : List Char → Option (Nat × List Char)
  | c :: tens :: ones :: rest =>
    if c = separator ∧ tens.isDigit = true ∧ ones.isDigit = true then
      some (Nat.ofDigitChars 10 [tens, ones] 0, rest)
    else none
  | _ => none

/-- Nothing but the offset is left. -/
def endsInOffset? (rest : List Char) : Option Unit :=
  if rest = "+00:00".toList then some () else none

/-- The date and time that a text says. -/
def ofText? (s : String) : Option Civil := do
  let (year, rest) ← readYear? s.toList
  let (month, rest) ← readField? '-' rest
  let (day, rest) ← readField? '-' rest
  let (hour, rest) ← readField? 'T' rest
  let (minute, rest) ← readField? ':' rest
  let (second, rest) ← readField? ':' rest
  endsInOffset? rest
  return ⟨year, month, day, hour, minute, second⟩

/-! ## Numbers -/

variable {n width : Nat} {rest : List Char} {separator : Char}

theorem isDigit_of_mem_padded {c : Char} (h : c ∈ (padded width n).toList) : c.isDigit = true := by
  unfold padded at h
  rw [String.toList_ofList] at h
  rcases List.mem_append.mp h with hzero | hdigit
  · rw [(List.mem_replicate.mp hzero).2]
    rfl
  · exact Nat.isDigit_of_mem_toDigits (by decide) (by decide) hdigit

/-- The zeros in front do not count. -/
theorem ofDigitChars_padded : Nat.ofDigitChars 10 (padded width n).toList 0 = n := by
  unfold padded
  rw [String.toList_ofList, Nat.ofDigitChars_append, Nat.ofDigitChars_replicate_zero, Nat.mul_zero,
    Nat.ofDigitChars_ten_toDigits]

theorem length_padded :
    (padded width n).toList.length = max width (Nat.toDigits 10 n).length := by
  unfold padded
  rw [String.toList_ofList, List.length_append, List.length_replicate]
  omega

/-- A number that fits its width fills it. -/
theorem length_padded_of_le (h : (Nat.toDigits 10 n).length ≤ width) :
    (padded width n).toList.length = width := by
  rw [length_padded]
  omega

/-- A padded number is read back in front of anything but a digit. -/
theorem readNumber?_padded (h : ∀ c ∈ rest.head?, c.isDigit = false) :
    readNumber? ((padded 4 n).toList ++ rest) = some (n, (padded 4 n).toList.length, rest) := by
  have htake : ((padded 4 n).toList ++ rest).takeWhile Char.isDigit = (padded 4 n).toList := by
    rw [List.takeWhile_append_of_pos fun c hc => isDigit_of_mem_padded hc]
    cases rest with
    | nil => simp
    | cons c rest => simp [h c rfl]
  have hdrop : ((padded 4 n).toList ++ rest).dropWhile Char.isDigit = rest := by
    rw [List.dropWhile_append_of_pos fun c hc => isDigit_of_mem_padded hc]
    cases rest with
    | nil => rfl
    | cons c rest => simp [h c rfl]
  have hlength : ¬ (padded 4 n).toList.length < 4 := by
    rw [length_padded]
    omega
  unfold readNumber?
  rw [htake, hdrop]
  dsimp only
  rw [if_neg hlength, ofDigitChars_padded]

theorem readYear?_minus (cs : List Char) :
    readYear? ('-' :: cs) = (readNumber? cs).map fun (n, _, rest) => (-(n : Int), rest) := by
  simp [readYear?]

theorem readYear?_plus (cs : List Char) :
    readYear? ('+' :: cs) = (readNumber? cs).map fun (n, _, rest) => ((n : Int), rest) := by
  simp [readYear?]

/-- Without a sign, the year starts with a digit. -/
theorem readYear?_digit {d : Char} {more : List Char} (hd : d.isDigit = true) :
    readYear? (d :: more) = (readNumber? (d :: more)).bind fun (n, size, rest) =>
      if size = 4 then some ((n : Int), rest) else none := by
  have hsign : ∀ sign : Char, sign.isDigit = false → some d ≠ some sign := by
    rintro sign hsign heq
    rw [Option.some.inj heq, hsign] at hd
    cases hd
  unfold readYear?
  rw [List.head?_cons, if_neg (hsign '-' rfl), if_neg (hsign '+' rfl)]

/-- A year of four digits has no sign. -/
theorem readYear?_padded (hn : n ≤ 9999) (h : ∀ c ∈ rest.head?, c.isDigit = false) :
    readYear? ((padded 4 n).toList ++ rest) = some ((n : Int), rest) := by
  have hlength : (padded 4 n).toList.length = 4 :=
    length_padded_of_le ((Nat.length_toDigits_le_iff (by decide) (by decide)).mpr (by omega))
  have hread := @readNumber?_padded n rest h
  obtain ⟨first, more, hfirst⟩ := List.exists_cons_of_length_eq_add_one hlength
  have hdigit : first.isDigit = true :=
    isDigit_of_mem_padded (by rw [hfirst]; exact List.mem_cons_self)
  rw [hlength, hfirst, List.cons_append] at hread
  rw [hfirst, List.cons_append, readYear?_digit hdigit, hread, Option.bind_some]
  exact if_pos rfl

/-- A year is read back, whatever its sign and however many digits it has. -/
theorem readYear?_yearText (year : Int) (h : ∀ c ∈ rest.head?, c.isDigit = false) :
    readYear? ((yearText year).toList ++ rest) = some (year, rest) := by
  have hread := @readNumber?_padded year.natAbs rest h
  unfold yearText
  by_cases hfour : 0 ≤ year ∧ year ≤ 9999
  · rw [if_pos hfour, readYear?_padded (by omega) h, Int.natAbs_of_nonneg hfour.1]
  rw [if_neg hfour]
  by_cases hnegative : year < 0
  · have hminus : "-".toList ++ ((padded 4 year.natAbs).toList ++ rest) =
        '-' :: ((padded 4 year.natAbs).toList ++ rest) := by simp
    rw [if_pos hnegative, String.toList_append, List.append_assoc, hminus, readYear?_minus, hread,
      Option.map_some]
    dsimp only
    rw [Int.ofNat_natAbs_of_nonpos (by omega), Int.neg_neg]
  · have hplus : "+".toList ++ ((padded 4 year.natAbs).toList ++ rest) =
        '+' :: ((padded 4 year.natAbs).toList ++ rest) := by simp
    rw [if_neg hnegative, String.toList_append, List.append_assoc, hplus, readYear?_plus, hread,
      Option.map_some]
    dsimp only
    rw [Int.natAbs_of_nonneg (by omega)]

/-- A field of two digits is read back behind its separator. -/
theorem readField?_padded (h : n < 100) :
    readField? separator (separator :: ((padded 2 n).toList ++ rest)) = some (n, rest) := by
  have hlength : (padded 2 n).toList.length = 2 :=
    length_padded_of_le ((Nat.length_toDigits_le_iff (by decide) (by decide)).mpr h)
  have hvalue := @ofDigitChars_padded n 2
  have hdigit := fun c => @isDigit_of_mem_padded n 2 c
  match hdigits : (padded 2 n).toList, hlength with
  | [tens, ones], _ =>
    rw [hdigits] at hvalue hdigit
    show (if _ then some (Nat.ofDigitChars 10 [tens, ones] 0, rest) else none) = _
    rw [hvalue, if_pos ⟨rfl, hdigit tens (by simp), hdigit ones (by simp)⟩]

/-! ## Dates -/

/-- The parts of the text of a date, one behind the other. -/
theorem toList_text (c : Civil) :
    c.text.toList = (yearText c.year).toList ++ '-' :: ((padded 2 c.month).toList ++
      '-' :: ((padded 2 c.day).toList ++ 'T' :: ((padded 2 c.hour).toList ++
        ':' :: ((padded 2 c.minute).toList ++ ':' :: ((padded 2 c.second).toList ++
          "+00:00".toList))))) := by
  have hdash : "-".toList = ['-'] := rfl
  have htime : "T".toList = ['T'] := rfl
  have hcolon : ":".toList = [':'] := rfl
  unfold text
  simp only [String.toList_append, List.append_assoc, hdash, htime, hcolon, List.cons_append,
    List.nil_append]

/-- Every valid date is read back from its text. -/
theorem Valid.ofText?_text {c : Civil} (h : c.Valid) : ofText? c.text = some c := by
  have hmonth := h.month_mem.2
  have hday : c.day ≤ 31 := Nat.le_trans h.day_mem.2 (daysInMonth_le _ _)
  have hhour := h.hour_lt
  have hminute := h.minute_lt
  have hsecond := h.second_lt
  have hoffset : endsInOffset? "+00:00".toList = some () := if_pos rfl
  unfold ofText?
  rw [toList_text, readYear?_yearText _ (by simp)]
  dsimp only [Option.bind_eq_bind, Option.bind_some]
  rw [readField?_padded (by omega)]
  dsimp only [Option.bind_some]
  rw [readField?_padded (by omega)]
  dsimp only [Option.bind_some]
  rw [readField?_padded (by omega)]
  dsimp only [Option.bind_some]
  rw [readField?_padded (by omega)]
  dsimp only [Option.bind_some]
  rw [readField?_padded (by omega)]
  dsimp only [Option.bind_some]
  rw [hoffset]
  rfl

end RevisionControl.Time.Civil
