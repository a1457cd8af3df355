import Mathlib.Logic.Function.Iterate
import RevisionControl.Pushlog.Retry

/-!
# Proofs: repeated attempts

The calls of an operation have numbers, and each starts from the state that those before it left. A
run of attempts ends at one of them (`IsLastCall`), which is the first that succeeds or else the
last that the policy allows; its outcome is that of the run, and the run leaves the state behind it.

The same run is told once more as a loop with a counter of 32 bits (`Loop.Reached`, `Loop.Ends`).
The counter is the number of the call that comes next, so the limit of the policy bounds it and it
never wraps.
-/

namespace RevisionControl.Pushlog

variable {σ ε α : Type}

/-! ## The calls of an operation -/

section Calls

variable (operation : ExceptT ε (StateM σ) α) (s : σ)

/-- The state that some calls of an operation leave, one after the other. -/
def stateAfter (count : Nat) : σ := (fun state => (operation.run state).2)^[count] s

/-- The outcome of a call; the first has the number one. -/
def outcomeOf (number : Nat) : Except ε α :=
  (operation.run (stateAfter operation s (number - 1))).1

theorem stateAfter_succ (count : Nat) :
    stateAfter operation s (count + 1) = stateAfter operation (operation.run s).2 count :=
  Function.iterate_succ_apply _ _ _

theorem stateAfter_succ' (count : Nat) :
    stateAfter operation s (count + 1) = (operation.run (stateAfter operation s count)).2 :=
  Function.iterate_succ_apply' _ _ _

theorem outcomeOf_succ {number : Nat} (h : 0 < number) :
    outcomeOf operation s (number + 1) = outcomeOf operation (operation.run s).2 number := by
  obtain ⟨count, rfl⟩ := Nat.exists_eq_add_one.mpr h
  show (operation.run (stateAfter operation s (count + 1))).1 = _
  rw [stateAfter_succ]
  rfl

theorem run_stateAfter (count : Nat) :
    operation.run (stateAfter operation s count) =
      (outcomeOf operation s (count + 1), stateAfter operation s (count + 1)) := by
  rw [stateAfter_succ']
  rfl

end Calls

/-- The call that a run of attempts ends with: the first that succeeds, or the last one allowed. -/
structure IsLastCall (outcome : Nat → Except ε α) (limit number : Nat) : Prop where
  pos : 0 < number
  le : number ≤ limit
  failed : ∀ earlier, 0 < earlier → earlier < number → ∃ error, outcome earlier = .error error
  settled : number = limit ∨ ∃ value, outcome number = .ok value

namespace IsLastCall

variable {outcome outcome' : Nat → Except ε α} {limit number other : Nat}

theorem not_lt (h : IsLastCall outcome limit number) (h' : IsLastCall outcome limit other) :
    ¬ number < other := by
  intro hlt
  obtain ⟨error, herror⟩ := h'.failed number h.pos hlt
  rcases h.settled with hlimit | ⟨value, hvalue⟩
  · have hle := h'.le
    omega
  · rw [herror] at hvalue
    cases hvalue

theorem unique (h : IsLastCall outcome limit number) (h' : IsLastCall outcome limit other) :
    number = other := by
  have hlt := h.not_lt h'
  have hgt := h'.not_lt h
  omega

/-- What comes after the last call makes no difference. -/
theorem congr (h : IsLastCall outcome limit number)
    (hsame : ∀ earlier, 0 < earlier → earlier ≤ number → outcome' earlier = outcome earlier) :
    IsLastCall outcome' limit number := by
  refine ⟨h.pos, h.le, fun earlier hpos hlt => ?_, ?_⟩
  · rw [hsame earlier hpos (Nat.le_of_lt hlt)]
    exact h.failed earlier hpos hlt
  · rw [hsame number h.pos (Nat.le_refl number)]
    exact h.settled

/-- A failed call in front puts the last call off by one. -/
theorem succ (h : IsLastCall outcome limit number) {error : ε} (hfirst : outcome' 1 = .error error)
    (hsame : ∀ earlier, 0 < earlier → outcome' (earlier + 1) = outcome earlier) :
    IsLastCall outcome' (limit + 1) (number + 1) := by
  refine ⟨Nat.succ_pos number, Nat.succ_le_succ h.le, fun earlier hpos hlt => ?_, ?_⟩
  · by_cases hone : earlier = 1
    · exact ⟨error, hone ▸ hfirst⟩
    · obtain ⟨before, rfl⟩ := Nat.exists_eq_add_one.mpr hpos
      have hbefore : 0 < before := by omega
      rw [hsame before hbefore]
      exact h.failed before hbefore (by omega)
  · rcases h.settled with rfl | ⟨value, hvalue⟩
    · exact Or.inl rfl
    · exact Or.inr ⟨value, by rw [hsame number h.pos, hvalue]⟩

end IsLastCall

/-! ## The run -/

/-- One attempt, with more to spare. -/
theorem attemptAgain_succ (operation : ExceptT ε (StateM σ) α) (spare : Nat) (s : σ) :
    attemptAgain operation (spare + 1) s =
      match operation.run s with
      | (.ok value, after) => (⟨.ok value, 1, 0⟩, after)
      | (.error _, after) =>
        ((attemptAgain operation spare after).1.afterFailure,
          (attemptAgain operation spare after).2) := by
  rw [attemptAgain]
  rcases operation.run s with ⟨_ | _, _⟩ <;> rfl

theorem attemptAgain_stops (operation : ExceptT ε (StateM σ) α) (spare : Nat) (s : σ) :
    ∃ number, IsLastCall (outcomeOf operation s) (spare + 1) number ∧
      attemptAgain operation spare s =
        (⟨outcomeOf operation s number, number, number - 1⟩, stateAfter operation s number) := by
  induction spare generalizing s with
  | zero => exact ⟨1, ⟨Nat.one_pos, Nat.le_refl 1, by omega, Or.inl rfl⟩, rfl⟩
  | succ spare ih =>
    have hrun : operation.run s = (outcomeOf operation s 1, stateAfter operation s 1) :=
      run_stateAfter operation s 0
    rw [attemptAgain_succ, hrun]
    cases hfirst : outcomeOf operation s 1 with
    | ok value =>
      refine ⟨1, ⟨Nat.one_pos, by omega, by omega, Or.inr ⟨value, hfirst⟩⟩, ?_⟩
      rw [hfirst]
    | error error =>
      obtain ⟨number, hlast, hstop⟩ := ih (stateAfter operation s 1)
      have hsame : ∀ earlier, 0 < earlier → outcomeOf operation s (earlier + 1) =
          outcomeOf operation (stateAfter operation s 1) earlier :=
        fun earlier hpos => outcomeOf_succ operation s hpos
      refine ⟨number + 1, hlast.succ hfirst hsame, ?_⟩
      have hpos := hlast.pos
      dsimp only
      rw [hstop, hsame number hpos, stateAfter_succ, Run.afterFailure, Nat.sub_add_cancel hpos,
        Nat.add_sub_cancel]
      rfl

theorem Policy.run_stops (policy : Policy) (operation : ExceptT ε (StateM σ) α) (s : σ) :
    ∃ number, IsLastCall (outcomeOf operation s) (max policy.attempts.toNat 1) number ∧
      policy.run operation s =
        (⟨outcomeOf operation s number, number, number - 1⟩, stateAfter operation s number) := by
  have hlimit : policy.attemptLimit - 1 + 1 = max policy.attempts.toNat 1 := by
    unfold Policy.attemptLimit
    omega
  rw [← hlimit]
  exact attemptAgain_stops operation (policy.attemptLimit - 1) s

theorem Policy.run_of_isLastCall {policy : Policy} {operation : ExceptT ε (StateM σ) α} {s : σ}
    {number : Nat}
    (h : IsLastCall (outcomeOf operation s) (max policy.attempts.toNat 1) number) :
    policy.run operation s =
      (⟨outcomeOf operation s number, number, number - 1⟩, stateAfter operation s number) := by
  obtain ⟨number', hlast, hrun⟩ := policy.run_stops operation s
  rw [h.unique hlast, hrun]

/-! ## The loop with its counter -/

namespace Loop

/-- Where a loop of attempts stands before a call. -/
structure Standing (σ : Type) where
  /-- The counter. -/
  attempt : UInt32
  /-- The number of calls made. -/
  calls : Nat
  /-- The number of pauses made. -/
  pauses : Nat
  /-- The state. -/
  state : σ

section Course

variable (policy : Policy) (operation : ExceptT ε (StateM σ) α) (s : σ)

/-- Where a loop stands that starts with its counter at one and, while that is below the limit,
pauses after a failed call and counts up. -/
inductive Reached : Standing σ → Prop where
  /-- At the start. -/
  | start : Reached ⟨1, 0, 0, s⟩
  /-- After one more failed call and a pause. -/
  | again {standing : Standing σ} {error : ε} {after : σ} (h : Reached standing)
      (hcall : operation.run standing.state = (.error error, after))
      (hbelow : standing.attempt < max policy.attempts 1) :
      Reached ⟨standing.attempt + 1, standing.calls + 1, standing.pauses + 1, after⟩

/-- How the loop ends: what it comes to, and the state that it leaves. -/
inductive Ends : Run ε α → σ → Prop where
  /-- With a call that succeeds. -/
  | success {standing : Standing σ} {value : α} {after : σ}
      (h : Reached policy operation s standing)
      (hcall : operation.run standing.state = (.ok value, after)) :
      Ends ⟨.ok value, standing.calls + 1, standing.pauses⟩ after
  /-- With a failed call that leaves the counter no room. -/
  | failure {standing : Standing σ} {error : ε} {after : σ}
      (h : Reached policy operation s standing)
      (hcall : operation.run standing.state = (.error error, after))
      (hlast : ¬ standing.attempt < max policy.attempts 1) :
      Ends ⟨.error error, standing.calls + 1, standing.pauses⟩ after

/-- What holds wherever the loop stands: the counter is the number of the call to come, and all
calls before have failed, each followed by a pause. -/
structure Counted (standing : Standing σ) : Prop where
  attempt_eq : standing.attempt.toNat = standing.calls + 1
  attempt_le : standing.attempt.toNat ≤ max policy.attempts.toNat 1
  pauses_eq : standing.pauses = standing.calls
  state_eq : standing.state = stateAfter operation s standing.calls
  failed : ∀ earlier, 0 < earlier → earlier < standing.calls + 1 →
    ∃ error, outcomeOf operation s earlier = .error error

end Course

theorem toNat_max_one (n : UInt32) : (max n 1).toNat = max n.toNat 1 := by
  have hone : (1 : UInt32).toNat = 1 := rfl
  show (if n ≤ 1 then 1 else n).toNat = _
  rw [Nat.max_def]
  by_cases h : n ≤ 1
  · have h' : n.toNat ≤ 1 := UInt32.le_iff_toNat_le.mp h
    rw [if_pos h, if_pos h', hone]
  · have h' : ¬ n.toNat ≤ 1 := fun hle => h (UInt32.le_iff_toNat_le.mpr hle)
    rw [if_neg h, if_neg h']

theorem toNat_succ_of_lt {n limit : UInt32} (h : n < limit) : (n + 1).toNat = n.toNat + 1 := by
  have hlt := UInt32.lt_iff_toNat_lt.mp h
  have hlimit := limit.toNat_lt
  have hone : (1 : UInt32).toNat = 1 := rfl
  rw [UInt32.toNat_add, hone, Nat.mod_eq_of_lt (by omega)]

variable {policy : Policy} {operation : ExceptT ε (StateM σ) α} {s : σ} {standing : Standing σ}

theorem below_iff :
    standing.attempt < max policy.attempts 1 ↔
      standing.attempt.toNat < max policy.attempts.toNat 1 := by
  rw [UInt32.lt_iff_toNat_lt, toNat_max_one]

theorem Counted.start : Counted policy operation s ⟨1, 0, 0, s⟩ := by
  refine ⟨rfl, ?_, rfl, rfl, fun earlier hpos hlt => ?_⟩
  · exact Nat.le_max_right _ 1
  · have hlt : earlier < 0 + 1 := hlt
    omega

/-- The call that a loop makes is the one whose number the counter is. -/
theorem Counted.call_eq (h : Counted policy operation s standing) :
    operation.run standing.state =
      (outcomeOf operation s (standing.calls + 1),
        stateAfter operation s (standing.calls + 1)) := by
  rw [h.state_eq, run_stateAfter]

theorem Counted.again (h : Counted policy operation s standing) {error : ε} {after : σ}
    (hcall : operation.run standing.state = (.error error, after))
    (hbelow : standing.attempt < max policy.attempts 1) :
    Counted policy operation s
      ⟨standing.attempt + 1, standing.calls + 1, standing.pauses + 1, after⟩ := by
  rw [h.call_eq] at hcall
  obtain ⟨houtcome, hafter⟩ := Prod.mk.inj hcall
  have hsucc := toNat_succ_of_lt hbelow
  have hattempt := h.attempt_eq
  refine ⟨by rw [hsucc, hattempt], ?_, by rw [h.pauses_eq], hafter.symm,
    fun earlier hpos hlt => ?_⟩
  · rw [hsucc]
    exact below_iff.mp hbelow
  · by_cases hlast : earlier = standing.calls + 1
    · exact ⟨error, hlast ▸ houtcome⟩
    · have hlt : earlier < standing.calls + 1 + 1 := hlt
      exact h.failed earlier hpos (by omega)

theorem Reached.counted (h : Reached policy operation s standing) :
    Counted policy operation s standing := by
  induction h with
  | start => exact Counted.start
  | again _ hcall hbelow ih => exact ih.again hcall hbelow

/-- As long as all calls fail, the loop goes on up to the limit. -/
theorem reached_of_failed (count : Nat) (hcount : count < max policy.attempts.toNat 1)
    (hfailed : ∀ earlier, 0 < earlier → earlier < count + 1 →
      ∃ error, outcomeOf operation s earlier = .error error) :
    ∃ standing, Reached policy operation s standing ∧ standing.calls = count := by
  induction count with
  | zero => exact ⟨_, .start, rfl⟩
  | succ count ih =>
    obtain ⟨standing, hreached, rfl⟩ :=
      ih (by omega) fun earlier hpos hlt => hfailed earlier hpos (by omega)
    have hcounted := hreached.counted
    obtain ⟨error, herror⟩ := hfailed (standing.calls + 1) (by omega) (by omega)
    have hcall := hcounted.call_eq
    rw [herror] at hcall
    have hattempt := hcounted.attempt_eq
    exact ⟨_, hreached.again hcall (below_iff.mpr (by omega)), rfl⟩

/-- The policy ends its run where the loop stands if the call to come is the one at the limit, or
succeeds. -/
theorem Counted.run_eq (h : Counted policy operation s standing) {outcome : Except ε α} {after : σ}
    (hcall : operation.run standing.state = (outcome, after))
    (hsettled : standing.calls + 1 = max policy.attempts.toNat 1 ∨ ∃ value, outcome = .ok value) :
    policy.run operation s = (⟨outcome, standing.calls + 1, standing.pauses⟩, after) := by
  rw [h.call_eq] at hcall
  obtain ⟨rfl, rfl⟩ := Prod.mk.inj hcall
  have hle := h.attempt_le
  have hattempt := h.attempt_eq
  have hlast : IsLastCall (outcomeOf operation s) (max policy.attempts.toNat 1)
      (standing.calls + 1) :=
    ⟨Nat.succ_pos _, by omega, h.failed, hsettled⟩
  rw [Policy.run_of_isLastCall hlast, h.pauses_eq]
  rfl

theorem run_of_ends {run : Run ε α} {after : σ} (h : Ends policy operation s run after) :
    policy.run operation s = (run, after) := by
  cases h with
  | success hreached hcall => exact hreached.counted.run_eq hcall (Or.inr ⟨_, rfl⟩)
  | failure hreached hcall hfull =>
    have hcounted := hreached.counted
    have hle := hcounted.attempt_le
    have hattempt := hcounted.attempt_eq
    have hlimit := mt below_iff.mpr hfull
    exact hcounted.run_eq hcall (Or.inl (by omega))

theorem ends_of_isLastCall {number : Nat}
    (h : IsLastCall (outcomeOf operation s) (max policy.attempts.toNat 1) number) :
    Ends policy operation s ⟨outcomeOf operation s number, number, number - 1⟩
      (stateAfter operation s number) := by
  obtain ⟨count, rfl⟩ := Nat.exists_eq_add_one.mpr h.pos
  obtain ⟨⟨attempt, calls, pauses, state⟩, hreached, rfl⟩ := reached_of_failed count h.le h.failed
  have hcounted := hreached.counted
  have hcall := hcounted.call_eq
  obtain rfl : pauses = calls := hcounted.pauses_eq
  dsimp only at h hcall ⊢
  rw [Nat.add_sub_cancel]
  cases houtcome : outcomeOf operation s (pauses + 1) with
  | ok value =>
    rw [houtcome] at hcall
    exact .success hreached hcall
  | error error =>
    rw [houtcome] at hcall
    refine .failure hreached hcall fun hbelow => ?_
    rcases h.settled with hlimit | ⟨value, hvalue⟩
    · have hattempt : attempt.toNat = pauses + 1 := hcounted.attempt_eq
      have hlt : attempt.toNat < max policy.attempts.toNat 1 := below_iff.mp hbelow
      omega
    · rw [houtcome] at hvalue
      cases hvalue

end Loop

open Loop in
/-- Attempting an operation ends, whatever its calls come to: with the first call that succeeds if
that is within the limit, and otherwise with the call at the limit, whose own failure it gives. It
makes the calls up to that one and no other, and pauses between them; so calls that would come later
have no influence. Told as a loop, it has a counter that is always the number of the call to come,
stays within the limit, and never wraps. -/
theorem run_ends_at_first_success (policy : Policy) (operation : ExceptT ε (StateM σ) α) (s : σ) :
    let limit := max policy.attempts.toNat 1
    let outcome := outcomeOf operation s
    let ran := policy.run operation s
    (∀ number value, 0 < number → number ≤ limit →
      (∀ earlier, 0 < earlier → earlier < number → ∃ error, outcome earlier = .error error) →
      outcome number = .ok value →
      ran = (⟨.ok value, number, number - 1⟩, stateAfter operation s number)) ∧
    ((∀ number, 0 < number → number ≤ limit → ∃ error, outcome number = .error error) →
      ∃ error, outcome limit = .error error ∧
        ran = (⟨.error error, limit, limit - 1⟩, stateAfter operation s limit)) ∧
    (∀ {τ : Type} (other : ExceptT ε (StateM τ) α) (t : τ),
      (∀ number, 0 < number → number ≤ ran.1.calls →
        outcomeOf other t number = outcome number) →
      (policy.run other t).1 = ran.1) ∧
    (∀ standing, Reached policy operation s standing →
      standing.attempt.toNat = standing.calls + 1 ∧ standing.attempt.toNat ≤ limit ∧
      (standing.attempt < max policy.attempts 1 →
        (standing.attempt + 1).toNat = standing.attempt.toNat + 1)) ∧
    ∀ run after, Ends policy operation s run after ↔ ran = (run, after) := by
  intro limit outcome ran
  refine ⟨fun number value hpos hle hfailed hvalue => ?_, fun hfailed => ?_, ?_, ?_, ?_⟩
  · have hlast : IsLastCall outcome limit number := ⟨hpos, hle, hfailed, Or.inr ⟨value, hvalue⟩⟩
    have hran := Policy.run_of_isLastCall hlast
    rwa [show outcomeOf operation s number = .ok value from hvalue] at hran
  · have hpos : 0 < limit := Nat.lt_of_lt_of_le Nat.one_pos (Nat.le_max_right _ 1)
    obtain ⟨error, herror⟩ := hfailed limit hpos (Nat.le_refl limit)
    have hlast : IsLastCall outcome limit limit :=
      ⟨hpos, Nat.le_refl limit, fun earlier h hlt => hfailed earlier h (Nat.le_of_lt hlt),
        Or.inl rfl⟩
    have hran := Policy.run_of_isLastCall hlast
    rw [show outcomeOf operation s limit = .error error from herror] at hran
    exact ⟨error, herror, hran⟩
  · intro τ other t hsame
    obtain ⟨number, hlast, hran⟩ := policy.run_stops operation s
    have hcalls : ran.1.calls = number := congrArg (·.1.calls) hran
    rw [hcalls] at hsame
    have hother := Policy.run_of_isLastCall (hlast.congr hsame)
    rw [hother, hsame number hlast.pos (Nat.le_refl number)]
    exact (congrArg Prod.fst hran).symm
  · intro standing hreached
    have hcounted := hreached.counted
    exact ⟨hcounted.attempt_eq, hcounted.attempt_le, toNat_succ_of_lt⟩
  · intro run after
    refine ⟨run_of_ends, fun hrun => ?_⟩
    obtain ⟨number, hlast, hran⟩ := policy.run_stops operation s
    obtain ⟨rfl, rfl⟩ := Prod.mk.inj (hran.symm.trans hrun)
    exact ends_of_isLastCall hlast

end RevisionControl.Pushlog
