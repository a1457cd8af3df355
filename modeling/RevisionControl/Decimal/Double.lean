/-!
# Double-precision numbers

A finite double-precision number is a sign, a significand below `2 ^ 53` and a power of two not
below `2 ^ (-1074)`. `Double.nearest` rounds a quotient of natural numbers to such a number, half
to even, and reports an overflow. Every operation here is that rounding applied to an exact
quotient.
-/

namespace RevisionControl.Decimal

/-- A finite double-precision number: `significand * 2 ^ exponent`, with a sign that zero keeps
too. -/
structure Double where
  /-- Whether the number carries a minus sign. -/
  negative : Bool
  /-- The significand, below `2 ^ 53`. -/
  significand : Nat
  /-- The power of two, between -1074 and 971. -/
  exponent : Int
deriving DecidableEq, Repr

namespace Double

/-- `2 ^ 53`, the number of significands. -/
def precision : Nat := Nat.pow 2 53

/-- The exponent of the least positive number. -/
def leastExponent : Int := -1074

/-- The exponent of the greatest finite number. -/
def greatestExponent : Int := 971

/-- The positive zero. -/
def zero : Double := ⟨false, 0, leastExponent⟩

/-- The fraction `num / den` scaled by `2 ^ (-exponent)`, as a pair of natural numbers. -/
def scaled (num den : Nat) (exponent : Int) : Nat × Nat :=
  if 0 ≤ exponent then (num, den * Nat.pow 2 exponent.toNat)
  else (num * Nat.pow 2 (-exponent).toNat, den)

/-- A quotient rounded to a natural number, a half to the even neighbour. -/
def roundQuotient (num den : Nat) : Nat :=
  let quotient := num / den
  let twice := 2 * (num % den)
  if den < twice ∨ (twice = den ∧ quotient % 2 = 1) then quotient + 1 else quotient

/-- The exponent at which the quotient has 53 binary digits, or the least exponent. -/
def quotientExponent (num den : Nat) : Int :=
  let guess := max leastExponent ((Nat.log2 num : Int) - Nat.log2 den - 53)
  let (a, b) := scaled num den guess
  if precision ≤ a / b then guess + 1 else guess

/-- The number nearest to `num / den`, half to even; none when that is not finite. -/
def nearest (num den : Nat) : Option Double :=
  if num = 0 then some zero
  else
    let exponent := quotientExponent num den
    let (a, b) := scaled num den exponent
    let significand := roundQuotient a b
    let (significand, exponent) :=
      if significand = precision then (precision / 2, exponent + 1) else (significand, exponent)
    if greatestExponent < exponent then none else some ⟨false, significand, exponent⟩

/-- The magnitude as a fraction. -/
def fraction (x : Double) : Nat × Nat :=
  if 0 ≤ x.exponent then (x.significand * Nat.pow 2 x.exponent.toNat, 1)
  else (x.significand, Nat.pow 2 (-x.exponent).toNat)

/-- The magnitude times a power of ten that is itself rounded, rounded; none on overflow. -/
def timesPowerOfTen (x : Double) (k : Nat) : Option Double := do
  let power ← nearest (Nat.pow 10 k) 1
  let (a, b) := x.fraction
  let (c, d) := power.fraction
  nearest (a * c) (b * d)

/-- The magnitude over a power of ten that is itself rounded, rounded. -/
def overPowerOfTen (x : Double) (k : Nat) : Double :=
  match nearest (Nat.pow 10 k) 1 with
  | none => zero
  | some power =>
    let (a, b) := x.fraction
    let (c, d) := power.fraction
    (nearest (a * d) (b * c)).getD zero

/-- The greatest power of ten that is finite. -/
def greatestPower : Nat := 308

/-- The magnitude over `10 ^ k`. A power that is not finite is divided out in steps. -/
def overPowersOfTen (x : Double) (k : Nat) : Double :=
  if k ≤ greatestPower then x.overPowerOfTen k
  else if x.significand = 0 then x
  else (x.overPowerOfTen greatestPower).overPowersOfTen (k - greatestPower)
termination_by k
decreasing_by simp [greatestPower] at *; omega

/-- The number for `digits * 10 ^ power`: the digits are rounded first, then the product or the
quotient with the power of ten; none when the product is not finite. -/
def ofScaled (digits : Nat) (power : Int) : Option Double := do
  let x ← nearest digits 1
  if 0 ≤ power then
    if power ≤ greatestPower then x.timesPowerOfTen power.toNat
    else if x.significand = 0 then some x
    else none
  else some (x.overPowersOfTen (-power).toNat)

/-- The number with the given sign. -/
def withSign (negative : Bool) (x : Double) : Double := { x with negative }

end Double

end RevisionControl.Decimal
