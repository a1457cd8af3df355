import RevisionControl.Pushlog.Answer
import RevisionControl.Proofs.Time.Bounds
import RevisionControl.Proofs.Time.Text

/-!
# Proofs: the date and time of a push

A push has a date and time if and only if its seconds lie in one of the years kept, and then nothing
is lost in between: the seconds, the date, the text of the date and the order of dates tell the same.
-/

namespace RevisionControl.Pushlog

open RevisionControl.Time

variable {c : Civil} {date : Int} {year : Int}

/-! ## The years kept -/

/-- A valid date is before the first second of a year if and only if its year is before. -/
theorem before_firstSecond_iff (h : c.Valid) :
    c.Before ⟨year, 1, 1, 0, 0, 0⟩ ↔ c.year < year := by
  have hmonth := h.month_mem.1
  have hday := h.day_mem.1
  unfold Civil.Before
  dsimp only
  omega

/-- The last second of a year is before a valid date if and only if its year is behind. -/
theorem lastSecond_before_iff (h : c.Valid) :
    Civil.Before ⟨year, 12, 31, 23, 59, 59⟩ c ↔ year < c.year := by
  have hmonth := h.month_mem.2
  have hday : c.day ≤ 31 := Nat.le_trans h.day_mem.2 (Civil.daysInMonth_le _ _)
  have hhour := h.hour_lt
  have hminute := h.minute_lt
  have hsecond := h.second_lt
  unfold Civil.Before
  dsimp only
  omega

theorem valid_firstSecond (year : Int) : Civil.Valid ⟨year, 1, 1, 0, 0, 0⟩ := by
  have hday : 1 ≤ Civil.daysInMonth year 1 := Nat.succ_pos 30
  constructor <;> dsimp only <;> omega

theorem valid_lastSecond (year : Int) : Civil.Valid ⟨year, 12, 31, 23, 59, 59⟩ := by
  have hday : 31 ≤ Civil.daysInMonth year 12 := Nat.le_refl 31
  constructor <;> dsimp only <;> omega

theorem earliestDate_eq : earliestDate = Civil.timestamp ⟨-262143, 1, 1, 0, 0, 0⟩ := rfl

theorem latestDate_eq : latestDate = Civil.timestamp ⟨262142, 12, 31, 23, 59, 59⟩ := rfl

/-- The bounds on seconds are bounds on years. -/
theorem kept_iff_year :
    earliestDate ≤ date ∧ date ≤ latestDate ↔
      -262143 ≤ (Civil.ofTimestamp date).year ∧ (Civil.ofTimestamp date).year ≤ 262142 := by
  have hvalid := Civil.valid_ofTimestamp date
  have hfirst := Civil.before_iff_timestamp_lt hvalid (valid_firstSecond (-262143))
  have hlast := Civil.before_iff_timestamp_lt (valid_lastSecond 262142) hvalid
  rw [before_firstSecond_iff hvalid, Civil.timestamp_ofTimestamp, ← earliestDate_eq] at hfirst
  rw [lastSecond_before_iff hvalid, Civil.timestamp_ofTimestamp, ← latestDate_eq] at hlast
  omega

/-! ## The date and time -/

theorem Push.time?_eq_none_iff {push : Push} :
    push.time? = none ↔ ¬(earliestDate ≤ push.date ∧ push.date ≤ latestDate) := by
  unfold Push.time? timeOf?
  split
  · next hkept => simp [hkept]
  · next hkept => simp [hkept]

theorem Push.time?_eq_some_iff {push : Push} :
    push.time? = some c ↔
      (earliestDate ≤ push.date ∧ push.date ≤ latestDate) ∧ c = Civil.ofTimestamp push.date := by
  unfold Push.time? timeOf?
  split
  · next hkept => simp [hkept, eq_comm]
  · next hkept => simp [hkept]

/-- A push has a date and time if and only if it was pushed in the years kept. The date is valid, no
other valid one has as many seconds, and its text reads as the date. Of two pushes the later one has
the later date. Seconds that fit 64 bits are converted, and back, within 64 bits. -/
theorem time_exact :
    (∀ push : Push,
      (push.time? = none ↔ push.date < -8334601228800 ∨ 8210266876799 < push.date) ∧
      (push.time? = none ↔ (Civil.ofTimestamp push.date).year < -262143 ∨
        262142 < (Civil.ofTimestamp push.date).year) ∧
      ∀ c : Civil,
        (push.time? = some c ↔
          c.Valid ∧ (-262143 ≤ c.year ∧ c.year ≤ 262142) ∧ c.timestamp = push.date) ∧
        (push.time? = some c → (Civil.ofText? c.text).map Civil.timestamp = some push.date)) ∧
    (∀ (push later : Push) (c d : Civil), push.time? = some c → later.time? = some d →
      (push.date < later.date ↔ c.Before d)) ∧
    (Civil.timestamp ⟨1970, 1, 1, 0, 0, 0⟩ = 0 ∧ ∀ c : Civil, c.Valid →
      c.next.Valid ∧ c.next.timestamp = c.timestamp + 1 ∧ c.Before c.next) ∧
    (∀ push : Push, fits64 push.date = true →
      Civil.ofTimestamp? push.date = some (Civil.ofTimestamp push.date)) ∧
    ∀ (push : Push) (c : Civil), push.time? = some c → Civil.timestamp? c = some push.date := by
  refine ⟨fun push => ⟨?outside, ?years, fun c => ⟨?exact, ?text⟩⟩, ?order, ?calendar, ?bounds,
    ?back⟩
  case outside =>
    have hearliest : earliestDate = -8334601228800 := rfl
    have hlatest : latestDate = 8210266876799 := rfl
    rw [push.time?_eq_none_iff]
    omega
  case years =>
    rw [push.time?_eq_none_iff, kept_iff_year]
    omega
  case exact =>
    rw [push.time?_eq_some_iff, kept_iff_year]
    constructor
    · rintro ⟨hyear, rfl⟩
      exact ⟨Civil.valid_ofTimestamp _, hyear, Civil.timestamp_ofTimestamp _⟩
    · rintro ⟨hvalid, hyear, hdate⟩
      have heq : Civil.ofTimestamp push.date = c := by
        rw [← hdate, Civil.ofTimestamp_timestamp hvalid]
      rw [heq]
      exact ⟨hyear, rfl⟩
  case text =>
    intro hc
    obtain ⟨-, rfl⟩ := Push.time?_eq_some_iff.mp hc
    rw [(Civil.valid_ofTimestamp push.date).ofText?_text]
    exact congrArg some (Civil.timestamp_ofTimestamp push.date)
  case order =>
    intro push later c d hc hd
    obtain ⟨-, rfl⟩ := Push.time?_eq_some_iff.mp hc
    obtain ⟨-, rfl⟩ := Push.time?_eq_some_iff.mp hd
    rw [Civil.before_iff_timestamp_lt (Civil.valid_ofTimestamp _) (Civil.valid_ofTimestamp _),
      Civil.timestamp_ofTimestamp, Civil.timestamp_ofTimestamp]
  case calendar =>
    refine ⟨Civil.timestamp_epoch, fun c hvalid => ⟨hvalid.next, hvalid.timestamp_next, ?_⟩⟩
    rw [Civil.before_iff_timestamp_lt hvalid hvalid.next, hvalid.timestamp_next]
    omega
  case bounds =>
    intro push hfits
    have hfits : Civil.Fits push.date := by
      unfold fits64 at hfits
      rwa [Bool.and_eq_true, decide_eq_true_eq, decide_eq_true_eq] at hfits
    exact Civil.ofTimestamp?_eq hfits
  case back =>
    intro push c hc
    obtain ⟨hkept, rfl⟩ := Push.time?_eq_some_iff.mp hc
    have hyear := kept_iff_year.mp hkept
    rw [Civil.timestamp?_eq (Civil.valid_ofTimestamp _) (by omega), Civil.timestamp_ofTimestamp]

example : timeOf? (-62167219201) = some ⟨-1, 12, 31, 23, 59, 59⟩ := by decide

end RevisionControl.Pushlog
