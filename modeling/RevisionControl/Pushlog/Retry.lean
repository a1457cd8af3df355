/-!
# Repeated attempts

A policy says how often an operation is attempted and how long the pause between two attempts is.
The operation is attempted until it succeeds or no attempt is left, and the outcome of the last
attempt made is the outcome of the run: an earlier failure leaves no trace in it. The pauses fall
between attempts, never before the first or after the last.
-/

namespace RevisionControl.Pushlog

/-- How often an operation is attempted, and the pause in between. -/
structure Policy where
  /-- The number of attempts, the first included. -/
  attempts : UInt32
  /-- The pause between two attempts, in seconds. -/
  pause : UInt64
deriving DecidableEq, Repr

namespace Policy

/-- Five attempts, ten seconds apart. -/
def default : Policy := ⟨5, 10⟩

instance : Inhabited Policy := ⟨.default⟩

/-- The number of attempts that may be made: a policy of none still makes one. -/
def attemptLimit (policy : Policy) : Nat :=
  max policy.attempts.toNat 1

end Policy

/-- What a run of attempts came to. -/
structure Run (ε α : Type) where
  /-- The outcome of the last attempt. -/
  outcome : Except ε α
  /-- The number of attempts made. -/
  calls : Nat
  /-- The number of pauses made. -/
  pauses : Nat

variable {σ ε α : Type}

/-- The same run with one failed attempt and a pause before it. -/
def Run.afterFailure (run : Run ε α) : Run ε α :=
  { run with calls := run.calls + 1, pauses := run.pauses + 1 }

/-- Attempts an operation, and then up to `spare` times again while it fails. -/
def attemptAgain (operation : ExceptT ε (StateM σ) α) : (spare : Nat) → StateM σ (Run ε α)
  | 0, s =>
    let (outcome, s) := operation.run s
    (⟨outcome, 1, 0⟩, s)
  | spare + 1, s =>
    match operation.run s with
    | (.ok value, s) => (⟨.ok value, 1, 0⟩, s)
    | (.error _, s) =>
      let (run, s) := attemptAgain operation spare s
      (run.afterFailure, s)

/-- Attempts an operation as often as the policy allows. -/
def Policy.run (policy : Policy) (operation : ExceptT ε (StateM σ) α) :
    StateM σ (Run ε α) :=
  attemptAgain operation (policy.attemptLimit - 1)

end RevisionControl.Pushlog
