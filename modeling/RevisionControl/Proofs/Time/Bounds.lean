import RevisionControl.Proofs.Time.Calendar

/-!
# Proofs: dates within 64 bits

The conversions between seconds and dates once more, with a check of every number on the way: one
that does not fit 64 bits with a sign ends the conversion. From seconds that fit nothing ever does.
-/

namespace RevisionControl.Time.Civil

/-! ## Checked numbers -/

/-- An integer fits 64 bits with a sign. -/
def Fits (n : Int) : Prop := -Int.pow 2 63 ≤ n ∧ n < Int.pow 2 63

instance : DecidablePred Fits := fun _ => instDecidableAnd

theorem fits_iff {n : Int} : Fits n ↔ -9223372036854775808 ≤ n ∧ n < 9223372036854775808 := by
  have hpow : Int.pow 2 63 = 9223372036854775808 := rfl
  unfold Fits
  rw [hpow]

/-- An integer, if it fits. -/
def keep? (n : Int) : Option Int := if Fits n then some n else none

/-- A number, if it fits. -/
def keepNat? (n : Nat) : Option Nat := if Fits n then some n else none

theorem keep?_bind {α : Type} {n : Int} {f : Int → Option α}
    (h : -9223372036854775808 ≤ n ∧ n < 9223372036854775808) : keep? n >>= f = f n := by
  have hkeep : keep? n = some n := if_pos (fits_iff.mpr h)
  rw [hkeep, Option.bind_eq_bind, Option.bind_some]

theorem keepNat?_bind {α : Type} {n : Nat} {f : Nat → Option α} (h : n < 9223372036854775808) :
    keepNat? n >>= f = f n := by
  have hfits : Fits n := fits_iff.mpr (by omega)
  have hkeep : keepNat? n = some n := if_pos hfits
  rw [hkeep, Option.bind_eq_bind, Option.bind_some]

/-! ## Checked conversions -/

/-- `yearOfCycle`, checked. -/
def yearOfCycle? (day : Nat) : Option Nat := do
  let shorter ← keepNat? (day - day / 1460)
  let longer ← keepNat? (shorter + day / 36524)
  return (longer - day / 146096) / 365

/-- `daysBeforeYear`, checked. -/
def daysBeforeYear? (year : Nat) : Option Nat := do
  let days ← keepNat? (365 * year)
  let longer ← keepNat? (days + year / 4)
  return longer - year / 100

/-- `monthOfYear`, checked. -/
def monthOfYear? (day : Nat) : Option Nat := do
  let fifths ← keepNat? (5 * day)
  let shifted ← keepNat? (fifths + 2)
  return shifted / 153

/-- `daysBeforeMonth`, checked. -/
def daysBeforeMonth? (month : Nat) : Option Nat := do
  let fifths ← keepNat? (153 * month)
  let shifted ← keepNat? (fifths + 2)
  return shifted / 5

/-- `ofTimestamp`, checked. -/
def ofTimestamp? (seconds : Int) : Option Civil := do
  let days ← keep? (seconds / 86400)
  let sinceMarch ← keep? (days + epochDay)
  let time ← keepNat? (seconds % 86400).toNat
  let day ← keepNat? (sinceMarch % cycleDays).toNat
  let year ← yearOfCycle? day
  let before ← daysBeforeYear? year
  let month ← monthOfYear? (day - before)
  let start ← daysBeforeMonth? month
  let firstYear ← keep? (sinceMarch / cycleDays * 400)
  let marchYear ← keep? (firstYear + year)
  let civilYear ← keep? (marchYear + (if month < 10 then 0 else 1))
  let civilMonth ← keepNat? (if month < 10 then month + 3 else month - 9)
  let civilDay ← keepNat? (day - before - start + 1)
  return {
    year := civilYear
    month := civilMonth
    day := civilDay
    hour := time / 3600
    minute := time / 60 % 60
    second := time % 60 }

/-- `timestamp`, checked. -/
def timestamp? (c : Civil) : Option Int := do
  let year ← keep? (if c.month < 3 then c.year - 1 else c.year)
  let month ← keepNat? (if c.month < 3 then c.month + 9 else c.month - 3)
  let ofCycle ← keepNat? (year % 400).toNat
  let cycles ← keep? (year / 400 * cycleDays)
  let before ← daysBeforeYear? ofCycle
  let start ← daysBeforeMonth? month
  let march ← keep? (cycles + before)
  let first ← keep? (march + start)
  let date ← keep? (first + (c.day - 1 : Nat))
  let days ← keep? (date - epochDay)
  let midnight ← keep? (days * 86400)
  let hours ← keepNat? (c.hour * 3600)
  let minutes ← keepNat? (c.minute * 60)
  let minute ← keepNat? (hours + minutes)
  let time ← keepNat? (minute + c.second)
  keep? (midnight + time)

/-! ## Nothing is left out -/

variable {α : Type} {day year month : Nat} {f : Nat → Option α}

theorem yearOfCycle?_bind (h : day < 146097) : yearOfCycle? day >>= f = f (yearOfCycle day) := by
  unfold yearOfCycle?
  rw [bind_assoc, keepNat?_bind (by omega), bind_assoc, keepNat?_bind (by omega)]
  rfl

theorem daysBeforeYear?_bind (h : year < 400) :
    daysBeforeYear? year >>= f = f (daysBeforeYear year) := by
  unfold daysBeforeYear?
  rw [bind_assoc, keepNat?_bind (by omega), bind_assoc, keepNat?_bind (by omega)]
  rfl

theorem monthOfYear?_bind (h : day < 146097) : monthOfYear? day >>= f = f (monthOfYear day) := by
  unfold monthOfYear?
  rw [bind_assoc, keepNat?_bind (by omega), bind_assoc, keepNat?_bind (by omega)]
  rfl

theorem daysBeforeMonth?_bind (h : month < 146097) :
    daysBeforeMonth? month >>= f = f (daysBeforeMonth month) := by
  unfold daysBeforeMonth?
  rw [bind_assoc, keepNat?_bind (by omega), bind_assoc, keepNat?_bind (by omega)]
  rfl

/-- Seconds that fit 64 bits are turned into a date within 64 bits. -/
theorem ofTimestamp?_eq {seconds : Int} (h : Fits seconds) :
    ofTimestamp? seconds = some (ofTimestamp seconds) := by
  have hseconds := fits_iff.mp h
  have hepoch : epochDay = 719468 := rfl
  have hcycle : cycleDays = 146097 := rfl
  obtain ⟨days, hdays⟩ : ∃ days, days = seconds / 86400 + epochDay := ⟨_, rfl⟩
  obtain ⟨day, hday⟩ : ∃ day, day = (days % cycleDays).toNat := ⟨_, rfl⟩
  have hlt : day < cycleDays := by
    rw [hcycle] at hday ⊢
    omega
  have hyear : yearOfCycle day < 400 := by
    obtain ⟨century, period, year, rest, hparts⟩ := exists_cycleDay hlt
    rw [hparts.yearOfCycle_eq]
    obtain ⟨-, hcentury, hperiod, hyearle, -⟩ := hparts
    omega
  have hcycles : -1000000000 ≤ days / cycleDays ∧ days / cycleDays ≤ 1000000000 := by
    rw [hcycle]
    omega
  have hmonth : monthOfYear (day - daysBeforeYear (yearOfCycle day)) < 146097 := by
    unfold monthOfYear
    omega
  unfold ofTimestamp?
  rw [keep?_bind (by omega), ← hdays, keep?_bind (by omega), keepNat?_bind (by omega), ← hday,
    keepNat?_bind (by omega), yearOfCycle?_bind (by omega), daysBeforeYear?_bind hyear,
    monthOfYear?_bind (by omega), daysBeforeMonth?_bind hmonth, keep?_bind (by omega),
    keep?_bind (by omega), keep?_bind (by split <;> omega), keepNat?_bind (by split <;> omega),
    keepNat?_bind (by omega)]
  subst hday hdays
  rfl

/-- The way back from a date within the years kept stays within 64 bits, too. -/
theorem timestamp?_eq {c : Civil} (h : c.Valid) (hyear : -9999999 < c.year ∧ c.year < 9999999) :
    timestamp? c = some c.timestamp := by
  have hepoch : epochDay = 719468 := rfl
  have hcycle : cycleDays = 146097 := rfl
  have hmonth := h.month_mem.2
  have hday : c.day ≤ 31 := Nat.le_trans h.day_mem.2 (daysInMonth_le _ _)
  have hhour := h.hour_lt
  have hminute := h.minute_lt
  have hsecond := h.second_lt
  obtain ⟨year, hmarch⟩ : ∃ year, year = if c.month < 3 then c.year - 1 else c.year := ⟨_, rfl⟩
  obtain ⟨month, hfrom⟩ : ∃ month, month = if c.month < 3 then c.month + 9 else c.month - 3 :=
    ⟨_, rfl⟩
  have hyearle : -9999999 ≤ year ∧ year < 9999999 := by
    split at hmarch <;> omega
  have hmonthlt : month < 12 := by
    split at hfrom <;> omega
  have hcyclelt : (year % 400).toNat < 400 := by omega
  have hbefore : daysBeforeYear (year % 400).toNat ≤ 146097 := by
    unfold daysBeforeYear
    omega
  have hstart : daysBeforeMonth month ≤ 366 := by
    unfold daysBeforeMonth
    omega
  unfold timestamp?
  rw [← hmarch, ← hfrom, keep?_bind (by omega), keepNat?_bind (by omega), keepNat?_bind (by omega),
    hcycle, keep?_bind (by omega), daysBeforeYear?_bind hcyclelt,
    daysBeforeMonth?_bind (by omega), keep?_bind (by omega), keep?_bind (by omega),
    keep?_bind (by omega), keep?_bind (by omega), keep?_bind (by omega), keepNat?_bind (by omega),
    keepNat?_bind (by omega), keepNat?_bind (by omega), keepNat?_bind (by omega)]
  unfold timestamp
  rw [← hmarch, ← hfrom, hcycle]
  exact if_pos (fits_iff.mpr (by omega))

end RevisionControl.Time.Civil
