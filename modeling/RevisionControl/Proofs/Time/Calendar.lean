import Mathlib.Data.Int.Init
import Mathlib.Tactic.IntervalCases
import RevisionControl.Time.Civil

/-!
# Proofs: seconds and dates

The calendar itself says which date follows which (`Civil.next`): a month has its days, February has
one more in a leap year, and a year has twelve months. Counting seconds goes along with it, one for
one, and the date that is computed for a number of seconds is the one valid date that the number
belongs to. For this a day is taken apart into its cycle of 400 years, century, period of four
years, year and rest.
-/

namespace RevisionControl.Time.Civil

variable {c d : Civil} {year year' : Int} {month month' : Nat}

/-! ## Days of a cycle -/

/-- A day of a cycle by its century, period of four years, year of the period and rest. The leap day
is the last of its year, and a century ends without one unless it is the last. -/
structure CycleDay (day century period year rest : Nat) : Prop where
  day_eq : day = 36524 * century + 1461 * period + 365 * year + rest
  century_le : century ≤ 3
  period_le : period ≤ 24
  year_le : year ≤ 3
  rest_le : rest < 365 ∨ rest = 365 ∧ year = 3 ∧ (period < 24 ∨ century = 3)

theorem exists_cycleDay {day : Nat} (h : day < cycleDays) :
    ∃ century period year rest, CycleDay day century period year rest := by
  unfold cycleDays at h
  obtain ⟨century, hcentury⟩ : ∃ century, century = min 3 (day / 36524) := ⟨_, rfl⟩
  obtain ⟨ofCentury, hofCentury⟩ : ∃ n, n = day - 36524 * century := ⟨_, rfl⟩
  have hlast : ofCentury < 36524 ∨ ofCentury = 36524 ∧ century = 3 := by omega
  obtain ⟨period, hperiod⟩ : ∃ period, period = ofCentury / 1461 := ⟨_, rfl⟩
  obtain ⟨ofPeriod, hofPeriod⟩ : ∃ n, n = ofCentury - 1461 * period := ⟨_, rfl⟩
  refine ⟨century, period, min 3 (ofPeriod / 365), ofPeriod - 365 * min 3 (ofPeriod / 365), ?_⟩
  constructor <;> omega

section

variable {day century period year rest : Nat}

theorem CycleDay.yearOfCycle_eq (h : CycleDay day century period year rest) :
    yearOfCycle day = 100 * century + 4 * period + year := by
  obtain ⟨hday, hcentury, hperiod, hyear, hrest⟩ := h
  have hcentury' : day < 36524 * (century + 1) ∨ day = 146096 ∧ century = 3 := by omega
  have hcenturies : day / 36524 = century + day / 146096 := by
    rcases hcentury' with hlt | ⟨rfl, rfl⟩
    · have hquotient : day / 36524 = century := by omega
      omega
    · rfl
  -- A leap day is counted in the quotient by 1460, and no first day of a year is.
  have hleaps : 25 * century + period ≤ day / 1460 ∧
      day / 1460 ≤ 25 * century + period + rest := by
    omega
  unfold yearOfCycle
  omega

theorem CycleDay.daysBeforeYear_eq (h : CycleDay day century period year rest) :
    daysBeforeYear (100 * century + 4 * period + year) + rest = day := by
  obtain ⟨hday, hcentury, hperiod, hyear, -⟩ := h
  have hfour : (100 * century + 4 * period + year) / 4 = 25 * century + period := by omega
  have hhundred : (100 * century + 4 * period + year) / 100 = century := by omega
  unfold daysBeforeYear
  rw [hfour, hhundred]
  omega

end

/-! ## Years and months -/

theorem isLeapYear_iff (year : Int) :
    isLeapYear year = true ↔ year % 4 = 0 ∧ (year % 100 ≠ 0 ∨ year % 400 = 0) := by
  simp [isLeapYear]

/-- The days from the first of March of the year 0 to that of another year. -/
def marchDays (year : Int) : Int :=
  year / 400 * cycleDays + daysBeforeYear (year % 400).toNat

/-- From one first of March to the next there is the leap day of the later year. -/
theorem marchDays_succ (year : Int) :
    marchDays (year + 1) = marchDays year + if isLeapYear (year + 1) then 366 else 365 := by
  obtain ⟨cycle, hcycle⟩ : ∃ cycle, cycle = year / 400 := ⟨_, rfl⟩
  obtain ⟨n, hn⟩ : ∃ n, n = (year % 400).toNat := ⟨_, rfl⟩
  have hyear : year = 400 * cycle + n := by omega
  have hlt : n < 400 := by omega
  have hleap : isLeapYear (year + 1) = true ↔ (n + 1) % 4 = 0 ∧ ((n + 1) % 100 ≠ 0 ∨ n = 399) := by
    rw [isLeapYear_iff]
    omega
  unfold marchDays daysBeforeYear cycleDays
  by_cases hlast : n = 399
  · have hnext : (year + 1) / 400 = cycle + 1 ∧ ((year + 1) % 400).toNat = 0 := by omega
    rw [hnext.1, hnext.2, ← hcycle, ← hn, if_pos (hleap.mpr (by omega))]
    omega
  · have hnext : (year + 1) / 400 = cycle ∧ ((year + 1) % 400).toNat = n + 1 := by omega
    rw [hnext.1, hnext.2, ← hcycle, ← hn]
    split
    · rename_i h
      rw [hleap] at h
      omega
    · rename_i h
      rw [hleap] at h
      omega

/-- The days from the start of 1970 to the first of a month. -/
def monthStart (year : Int) (month : Nat) : Int :=
  if month < 3 then marchDays (year - 1) + daysBeforeMonth (month + 9) - epochDay
  else marchDays year + daysBeforeMonth (month - 3) - epochDay

theorem monthStart_succ (hmonth : 1 ≤ month ∧ month < 12) :
    monthStart year (month + 1) = monthStart year month + daysInMonth year month := by
  have hmarch := marchDays_succ (year - 1)
  rw [Int.sub_add_cancel] at hmarch
  unfold monthStart daysInMonth daysBeforeMonth
  by_cases hleap : isLeapYear year = true
  · rw [if_pos hleap] at hmarch
    rw [if_pos hleap]
    obtain ⟨hfirst, hlast⟩ := hmonth
    interval_cases month <;> simp <;> omega
  · rw [if_neg hleap] at hmarch
    rw [if_neg hleap]
    obtain ⟨hfirst, hlast⟩ := hmonth
    interval_cases month <;> simp <;> omega

theorem monthStart_january (year : Int) : monthStart (year + 1) 1 = monthStart year 12 + 31 := by
  unfold monthStart daysBeforeMonth
  rw [Int.add_sub_cancel]
  simp
  omega

theorem daysInMonth_ge (year : Int) (month : Nat) : 28 ≤ daysInMonth year month := by
  unfold daysInMonth
  split
  · split <;> omega
  · split <;> omega

theorem daysInMonth_le (year : Int) (month : Nat) : daysInMonth year month ≤ 31 := by
  unfold daysInMonth
  split
  · split <;> omega
  · split <;> omega

/-! ## Counting seconds -/

/-- The days from the start of 1970 to a date. -/
def dayNumber (c : Civil) : Int := monthStart c.year c.month + (c.day - 1 : Nat)

/-- The seconds since midnight. -/
def secondOfDay (c : Civil) : Nat := c.hour * 3600 + c.minute * 60 + c.second

theorem timestamp_eq (c : Civil) : c.timestamp = c.dayNumber * 86400 + c.secondOfDay := by
  unfold timestamp dayNumber secondOfDay monthStart marchDays
  by_cases hmonth : c.month < 3
  · simp only [if_pos hmonth]
    congr 2
    omega
  · simp only [if_neg hmonth]
    congr 2
    omega

theorem Valid.secondOfDay_lt (h : c.Valid) : c.secondOfDay < 86400 := by
  have hhour := h.hour_lt
  have hminute := h.minute_lt
  have hsecond := h.second_lt
  unfold secondOfDay
  omega

theorem timestamp_epoch : timestamp ⟨1970, 1, 1, 0, 0, 0⟩ = 0 := by
  simp [timestamp, daysBeforeYear, daysBeforeMonth, cycleDays, epochDay]

/-- The date and time a second later. -/
def next (c : Civil) : Civil :=
  if c.second < 59 then { c with second := c.second + 1 }
  else if c.minute < 59 then { c with minute := c.minute + 1, second := 0 }
  else if c.hour < 23 then { c with hour := c.hour + 1, minute := 0, second := 0 }
  else if c.day < daysInMonth c.year c.month then
    { c with day := c.day + 1, hour := 0, minute := 0, second := 0 }
  else if c.month < 12 then ⟨c.year, c.month + 1, 1, 0, 0, 0⟩
  else ⟨c.year + 1, 1, 1, 0, 0, 0⟩

theorem secondOfDay_midnight (year : Int) (month day : Nat) :
    secondOfDay ⟨year, month, day, 0, 0, 0⟩ = 0 := by
  simp [secondOfDay]

/-- Before the last second of a day, the next one is in the same day. -/
theorem Valid.next_within_day (h : c.Valid) (hlt : c.secondOfDay < 86399) :
    c.next.Valid ∧ c.next.dayNumber = c.dayNumber ∧
      c.next.secondOfDay = c.secondOfDay + 1 := by
  obtain ⟨hmonth, hday, hhour, hminute, hsecond⟩ := h
  unfold secondOfDay at hlt
  unfold next
  by_cases hs : c.second < 59
  · rw [if_pos hs]
    refine ⟨⟨hmonth, hday, hhour, hminute, Nat.succ_lt_succ hs⟩, rfl, ?_⟩
    unfold secondOfDay
    dsimp only
    omega
  rw [if_neg hs]
  by_cases hm : c.minute < 59
  · rw [if_pos hm]
    refine ⟨⟨hmonth, hday, hhour, Nat.succ_lt_succ hm, Nat.succ_pos 59⟩, rfl, ?_⟩
    unfold secondOfDay
    dsimp only
    omega
  have hh : c.hour < 23 := by omega
  rw [if_neg hm, if_pos hh]
  refine ⟨⟨hmonth, hday, Nat.succ_lt_succ hh, Nat.succ_pos 59, Nat.succ_pos 59⟩, rfl, ?_⟩
  unfold secondOfDay
  dsimp only
  omega

/-- The last second of a day is followed by the start of the next day, which may be in the next
month or year. -/
theorem Valid.next_at_midnight (h : c.Valid) (heq : c.secondOfDay = 86399) :
    c.next.Valid ∧ c.next.dayNumber = c.dayNumber + 1 ∧ c.next.secondOfDay = 0 := by
  obtain ⟨hmonth, hday, hhour, hminute, hsecond⟩ := h
  unfold secondOfDay at heq
  have hlast : ¬ c.second < 59 ∧ ¬ c.minute < 59 ∧ ¬ c.hour < 23 := by omega
  unfold next
  rw [if_neg hlast.1, if_neg hlast.2.1, if_neg hlast.2.2]
  by_cases hd : c.day < daysInMonth c.year c.month
  · rw [if_pos hd]
    refine ⟨⟨hmonth, ⟨Nat.succ_pos _, hd⟩, Nat.succ_pos 23, Nat.succ_pos 59, Nat.succ_pos 59⟩, ?_,
      secondOfDay_midnight _ _ _⟩
    unfold dayNumber
    dsimp only
    omega
  rw [if_neg hd]
  have hlastDay : c.day = daysInMonth c.year c.month := by omega
  by_cases hy : c.month < 12
  · rw [if_pos hy]
    have hone : 1 ≤ daysInMonth c.year (c.month + 1) :=
      Nat.le_trans (by decide) (daysInMonth_ge c.year (c.month + 1))
    refine ⟨⟨⟨Nat.succ_pos _, hy⟩, ⟨Nat.le_refl 1, hone⟩, Nat.succ_pos 23, Nat.succ_pos 59,
      Nat.succ_pos 59⟩, ?_, secondOfDay_midnight _ _ _⟩
    unfold dayNumber
    dsimp only
    rw [monthStart_succ ⟨hmonth.1, hy⟩]
    omega
  · rw [if_neg hy]
    have hdecember : c.month = 12 := by omega
    have hdays : daysInMonth c.year 12 = 31 := rfl
    refine ⟨⟨⟨Nat.le_refl 1, Nat.succ_pos 11⟩, ⟨Nat.le_refl 1, Nat.succ_pos 30⟩, Nat.succ_pos 23,
      Nat.succ_pos 59, Nat.succ_pos 59⟩, ?_, secondOfDay_midnight _ _ _⟩
    rw [hdecember, hdays] at hlastDay
    unfold dayNumber
    dsimp only
    rw [monthStart_january, hdecember, hlastDay]
    omega

theorem Valid.next (h : c.Valid) : c.next.Valid := by
  rcases Nat.lt_or_eq_of_le (Nat.le_of_lt_succ h.secondOfDay_lt) with hlt | heq
  · exact (h.next_within_day hlt).1
  · exact (h.next_at_midnight heq).1

theorem Valid.timestamp_next (h : c.Valid) : c.next.timestamp = c.timestamp + 1 := by
  rw [timestamp_eq, timestamp_eq]
  rcases Nat.lt_or_eq_of_le (Nat.le_of_lt_succ h.secondOfDay_lt) with hlt | heq
  · obtain ⟨-, hday, hsecond⟩ := h.next_within_day hlt
    rw [hday, hsecond]
    omega
  · obtain ⟨-, hday, hsecond⟩ := h.next_at_midnight heq
    rw [hday, hsecond, heq]
    omega

/-! ## The order of dates -/

/-- Earlier in the first field in which two dates differ. -/
def Before (c d : Civil) : Prop :=
  c.year < d.year ∨ c.year = d.year ∧ (c.month < d.month ∨ c.month = d.month ∧
    (c.day < d.day ∨ c.day = d.day ∧ (c.hour < d.hour ∨ c.hour = d.hour ∧
      (c.minute < d.minute ∨ c.minute = d.minute ∧ c.second < d.second))))

theorem before_trichotomy (c d : Civil) : c.Before d ∨ c = d ∨ d.Before c := by
  have hfields : c = d ↔ c.year = d.year ∧ c.month = d.month ∧ c.day = d.day ∧ c.hour = d.hour ∧
      c.minute = d.minute ∧ c.second = d.second := by
    rcases c with ⟨⟩
    rcases d with ⟨⟩
    simp
  rw [hfields]
  unfold Before
  omega

/-- A month starts after all days of the months before it in its year. -/
theorem monthStart_add_le (hmonth : 1 ≤ month) (hlt : month < month') (hle : month' ≤ 12) :
    monthStart year month + daysInMonth year month ≤ monthStart year month' := by
  induction month', hlt using Nat.le_induction with
  | base => rw [monthStart_succ ⟨hmonth, by omega⟩]
  | succ next hnext ih =>
    have hstep := ih (by omega)
    rw [monthStart_succ ⟨by omega, by omega⟩]
    omega

theorem yearStart_mono {year' : Int} (h : year ≤ year') :
    monthStart year 1 ≤ monthStart year' 1 := by
  induction year', h using Int.leInduction with
  | base => exact Int.le_refl _
  | succ next hnext ih =>
    have hmonths := @monthStart_add_le next 1 12 (by decide) (by decide) (by decide)
    rw [monthStart_january]
    omega

/-- A valid date is before the start of the next year. -/
theorem Valid.dayNumber_bounds (h : c.Valid) :
    monthStart c.year 1 ≤ c.dayNumber ∧ c.dayNumber < monthStart (c.year + 1) 1 := by
  have hfirst : monthStart c.year 1 ≤ monthStart c.year c.month := by
    rcases Nat.eq_or_lt_of_le h.month_mem.1 with heq | hlt
    · rw [← heq]
    · have hmonths := @monthStart_add_le c.year 1 c.month (by decide) hlt h.month_mem.2
      omega
  have hlast : monthStart c.year c.month + daysInMonth c.year c.month ≤
      monthStart (c.year + 1) 1 := by
    rw [monthStart_january]
    rcases Nat.eq_or_lt_of_le h.month_mem.2 with heq | hlt
    · rw [heq]
      exact Int.le_refl _
    · have hmonths := @monthStart_add_le c.year c.month 12 h.month_mem.1 hlt (by decide)
      omega
  have hday := h.day_mem
  unfold dayNumber
  omega

theorem dayNumber_lt (hc : c.Valid) (hd : d.Valid)
    (h : c.year < d.year ∨ c.year = d.year ∧ (c.month < d.month ∨ c.month = d.month ∧ c.day < d.day)) :
    c.dayNumber < d.dayNumber := by
  rcases h with hyear | ⟨hyear, hmonth | ⟨hmonth, hday⟩⟩
  · have hyears : monthStart (c.year + 1) 1 ≤ monthStart d.year 1 :=
      yearStart_mono (by omega)
    have hc' := hc.dayNumber_bounds
    have hd' := hd.dayNumber_bounds
    omega
  · have hmonths := @monthStart_add_le c.year c.month d.month hc.month_mem.1 hmonth hd.month_mem.2
    have hday := hc.day_mem
    unfold dayNumber
    rw [← hyear]
    omega
  · have hpos := hc.day_mem.1
    unfold dayNumber
    rw [hyear, hmonth]
    omega

theorem timestamp_lt_of_before (hc : c.Valid) (hd : d.Valid) (h : c.Before d) :
    c.timestamp < d.timestamp := by
  rw [timestamp_eq, timestamp_eq]
  have hcs := hc.secondOfDay_lt
  have hds := hd.secondOfDay_lt
  by_cases hdate : c.year = d.year ∧ c.month = d.month ∧ c.day = d.day
  · have hnumber : c.dayNumber = d.dayNumber := by
      unfold dayNumber
      rw [hdate.1, hdate.2.1, hdate.2.2]
    have hsecond : c.secondOfDay < d.secondOfDay := by
      have hcm := hc.minute_lt
      have hcs := hc.second_lt
      unfold Before at h
      unfold secondOfDay
      omega
    omega
  · have hnumber : c.dayNumber < d.dayNumber := by
      unfold Before at h
      exact dayNumber_lt hc hd (by omega)
    omega

/-- Valid dates are in the order of their seconds. -/
theorem before_iff_timestamp_lt (hc : c.Valid) (hd : d.Valid) :
    c.Before d ↔ c.timestamp < d.timestamp := by
  refine ⟨timestamp_lt_of_before hc hd, fun hlt => ?_⟩
  rcases before_trichotomy c d with hbefore | rfl | hafter
  · exact hbefore
  · exact absurd hlt (Int.lt_irrefl _)
  · exact absurd (timestamp_lt_of_before hd hc hafter) (by omega)

theorem timestamp_inj (hc : c.Valid) (hd : d.Valid) : c.timestamp = d.timestamp ↔ c = d := by
  refine ⟨fun h => ?_, fun h => by rw [h]⟩
  rcases before_trichotomy c d with hbefore | heq | hafter
  · have hlt := timestamp_lt_of_before hc hd hbefore
    omega
  · exact heq
  · have hlt := timestamp_lt_of_before hd hc hafter
    omega

/-! ## The date of a number of seconds -/

/-- The month of a day of the year, from March on, and what is left of the day. -/
theorem monthOfYear_bounds {rest : Nat} (h : rest ≤ 365) :
    monthOfYear rest < 12 ∧ daysBeforeMonth (monthOfYear rest) ≤ rest ∧
      (monthOfYear rest < 11 → rest < daysBeforeMonth (monthOfYear rest + 1)) := by
  unfold daysBeforeMonth monthOfYear
  omega

/-- The day of a month that is counted from March on is one that the month has. -/
theorem dayOfMonth_le {cycleYear rest : Nat} (hrest : rest ≤ 365)
    (hleap : rest = 365 → isLeapYear (year * 400 + cycleYear + 1) = true) :
    let month := monthOfYear rest
    rest - daysBeforeMonth month + 1 ≤
      daysInMonth (year * 400 + cycleYear + if month < 10 then 0 else 1)
        (if month < 10 then month + 3 else month - 9) := by
  intro month
  obtain ⟨hmonth, hbefore, hafter⟩ := monthOfYear_bounds hrest
  rw [show monthOfYear rest = month from rfl] at hmonth hbefore hafter
  clear_value month
  by_cases hfebruary : month = 11
  · subst hfebruary
    have hstart : daysBeforeMonth 11 = 337 := rfl
    rw [hstart, if_neg (by decide), if_neg (by decide)]
    unfold daysInMonth
    rw [if_pos (by decide)]
    by_cases hlast : rest = 365
    · rw [if_pos (hleap hlast)]
      omega
    · split <;> omega
  · have hnext := hafter (by omega)
    have hlength : daysBeforeMonth (month + 1) - daysBeforeMonth month ≤
        daysInMonth (year * 400 + cycleYear + if month < 10 then 0 else 1)
          (if month < 10 then month + 3 else month - 9) := by
      have hle : month ≤ 10 := by omega
      clear hnext hafter hbefore hmonth hfebruary
      interval_cases month <;> simp [daysInMonth, daysBeforeMonth]
    omega

/-- The parts of the day in which a second lies. -/
theorem exists_parts (seconds : Int) :
    ∃ (cycle : Int) (cycleYear rest : Nat), cycleYear < 400 ∧ rest ≤ 365 ∧
      (rest = 365 → isLeapYear (cycle * 400 + cycleYear + 1) = true) ∧
      seconds / 86400 + epochDay = cycle * cycleDays + daysBeforeYear cycleYear + rest ∧
      ofTimestamp seconds =
        { year := cycle * 400 + cycleYear + if monthOfYear rest < 10 then 0 else 1
          month := if monthOfYear rest < 10 then monthOfYear rest + 3 else monthOfYear rest - 9
          day := rest - daysBeforeMonth (monthOfYear rest) + 1
          hour := (seconds % 86400).toNat / 3600
          minute := (seconds % 86400).toNat / 60 % 60
          second := (seconds % 86400).toNat % 60 } := by
  obtain ⟨days, hdays⟩ : ∃ days, days = seconds / 86400 + epochDay := ⟨_, rfl⟩
  obtain ⟨day, hday⟩ : ∃ day, day = (days % cycleDays).toNat := ⟨_, rfl⟩
  have hlt : day < cycleDays := by
    unfold cycleDays at hday ⊢
    omega
  obtain ⟨century, period, year, rest, hparts⟩ := exists_cycleDay hlt
  have hyear := hparts.yearOfCycle_eq
  have hbefore := hparts.daysBeforeYear_eq
  obtain ⟨-, hcentury, hperiod, hyearle, hrest⟩ := hparts
  refine ⟨days / cycleDays, 100 * century + 4 * period + year, rest, by omega, by omega,
    fun hlast => ?_, ?_, ?_⟩
  · rw [isLeapYear_iff]
    omega
  · rw [← hdays]
    unfold cycleDays at hday ⊢
    omega
  · have hdayOfYear : day - daysBeforeYear (yearOfCycle day) = rest := by
      rw [hyear]
      omega
    unfold ofTimestamp
    dsimp only
    rw [← hdays, ← hday, hdayOfYear, hyear]

theorem valid_ofTimestamp (seconds : Int) : (ofTimestamp seconds).Valid := by
  obtain ⟨cycle, cycleYear, rest, -, hrest, hleap, -, heq⟩ := exists_parts seconds
  have hmonth := (monthOfYear_bounds hrest).1
  rw [heq]
  refine ⟨?_, ⟨Nat.succ_pos _, dayOfMonth_le hrest hleap⟩, ?_, ?_, ?_⟩
  · dsimp only
    split <;> omega
  · dsimp only
    omega
  · dsimp only
    omega
  · dsimp only
    omega

theorem timestamp_ofTimestamp (seconds : Int) : (ofTimestamp seconds).timestamp = seconds := by
  obtain ⟨cycle, cycleYear, rest, hyear, hrest, -, hdays, heq⟩ := exists_parts seconds
  obtain ⟨hmonth, hbefore, -⟩ := monthOfYear_bounds hrest
  have hcycle : (cycle * 400 + cycleYear) / 400 = cycle ∧
      ((cycle * 400 + cycleYear : Int) % 400).toNat = cycleYear := by omega
  have hmarch : marchDays (cycle * 400 + cycleYear) = cycle * cycleDays + daysBeforeYear cycleYear := by
    unfold marchDays
    rw [hcycle.1, hcycle.2]
  have hnumber : (ofTimestamp seconds).dayNumber = seconds / 86400 := by
    rw [heq]
    unfold dayNumber monthStart
    dsimp only
    by_cases hspring : monthOfYear rest < 10
    · have hthree : ¬ monthOfYear rest + 3 < 3 := by omega
      rw [if_pos hspring, if_pos hspring, if_neg hthree, Int.add_zero, hmarch, Nat.add_sub_cancel]
      omega
    · have hthree : monthOfYear rest - 9 < 3 := by omega
      have hback : monthOfYear rest - 9 + 9 = monthOfYear rest := by omega
      rw [if_neg hspring, if_neg hspring, if_pos hthree, Int.add_sub_cancel, hmarch, hback]
      omega
  have hsecond : ((ofTimestamp seconds).secondOfDay : Int) = seconds % 86400 := by
    rw [heq]
    unfold secondOfDay
    dsimp only
    omega
  rw [timestamp_eq, hnumber, hsecond]
  omega

theorem ofTimestamp_timestamp (h : c.Valid) : ofTimestamp c.timestamp = c :=
  (timestamp_inj (valid_ofTimestamp _) h).mp (timestamp_ofTimestamp _)

end RevisionControl.Time.Civil
