import RevisionControl.Decimal.Double

/-!
# The shortest decimal of a double-precision number

Every real closer to a number than to its neighbours rounds to it, and so do the two ends of that
interval when the significand is even. Among the decimals in the interval the shortest are those
on the coarsest grid of powers of ten that has one, and of these the nearest is taken. It is
written positionally from `10 ^ (-5)` up to, but not including, `10 ^ 16`, and with an exponent
otherwise.
-/

namespace RevisionControl.Decimal

/-- A decimal: `digits * 10 ^ power`. -/
structure Scientific where
  /-- The digits, read as one natural number. -/
  digits : Nat
  /-- The power of ten of the last digit. -/
  power : Int
deriving DecidableEq, Repr

/-- The greatest `p` with `10 ^ p ≤ num / den`, searched among the `fuel` powers from `start`
downwards. -/
def leadingPower (num den : Nat) : Nat → Int → Int
  | 0, start => start
  | fuel + 1, start =>
    let reached :=
      if 0 ≤ start then den * 10 ^ start.toNat ≤ num else den ≤ num * 10 ^ (-start).toNat
    if reached then start else leadingPower num den fuel (start - 1)

/-- The interval of reals that round to a number with this significand and exponent, over the
denominator 4 at that exponent: its two ends, and whether they belong to it. -/
def roundingInterval (x : Double) : Nat × Nat × Bool :=
  let low :=
    if x.significand = Double.precision / 2 ∧ Double.leastExponent < x.exponent then
      4 * x.significand - 1
    else 4 * x.significand - 2
  (low, 4 * x.significand + 2, x.significand % 2 == 0)

/-- Of the two multiples of `10 ^ power` around the number, the nearest that rounds to it; a tie
goes to the even one. -/
def onGrid? (x : Double) (power : Int) : Option Scientific :=
  -- the grid unit and the quarter unit of the number, over one denominator
  let (unit, quarter) :=
    let (u, v) :=
      if 0 ≤ power then (Nat.pow 10 power.toNat, 1)
      else (1, Nat.pow 10 (-power).toNat)
    let (q, r) :=
      if 2 ≤ x.exponent then (Nat.pow 2 (x.exponent - 2).toNat, 1)
      else (1, Nat.pow 2 (2 - x.exponent).toNat)
    (u * r, q * v)
  let (low, high, closed) := roundingInterval x
  let within (n : Nat) : Bool :=
    let multiple := n * unit
    if closed then low * quarter ≤ multiple && multiple ≤ high * quarter
    else low * quarter < multiple && multiple < high * quarter
  let value := 4 * x.significand * quarter
  let below := value / unit
  let remainder := value % unit
  match within below, within (below + 1) with
  | true, true =>
    let up := unit < 2 * remainder || (2 * remainder == unit && below % 2 == 1)
    some ⟨if up then below + 1 else below, power⟩
  | true, false => some ⟨below, power⟩
  | false, true => some ⟨below + 1, power⟩
  | false, false => none

/-- The first grid, of `fuel` ever finer ones from `10 ^ power` on, with a decimal that rounds to
the number. -/
def firstOnGrid (x : Double) : Nat → Int → Scientific
  | 0, power => ⟨0, power⟩
  | fuel + 1, power =>
    match onGrid? x power with
    | some decimal => decimal
    | none => firstOnGrid x fuel (power - 1)

/-- Moves the zeros at the end of the digits into the power. -/
def Scientific.stripZeros : Nat → Scientific → Scientific
  | 0, s => s
  | fuel + 1, s =>
    if s.digits ≠ 0 ∧ s.digits % 10 = 0 then stripZeros fuel ⟨s.digits / 10, s.power + 1⟩ else s

/-- The shortest decimal that rounds to the number, and the nearest of those. -/
def shortest (x : Double) : Scientific :=
  if x.significand = 0 then ⟨0, 0⟩
  else
    let (num, den) := x.fraction
    let lead := leadingPower num den 640 309
    (firstOnGrid x 18 lead).stripZeros 20

/-- How the texts of double-precision numbers look. -/
structure Layout where
  /-- The least power of ten, of the first digit, that is written positionally. -/
  leastPositional : Int
  /-- The greatest such power. -/
  greatestPositional : Int
  /-- What follows the digits of a whole number that is written positionally. -/
  wholeMark : String
  /-- What stands before a positive exponent. -/
  positiveExponent : String
  /-- What stands before the magnitude of a negative exponent. -/
  negativeExponent : String

/-- Positional from `0.00001` to below `10 ^ 16`, a whole number with `.0`, and otherwise an
exponent with its sign. -/
def Layout.standard : Layout := ⟨-5, 15, ".0", "e+", "e-"⟩

/-- The text of a decimal. -/
def Layout.text (layout : Layout) (s : Scientific) : String :=
  let digits := Nat.toDigits 10 s.digits
  let lead : Int := s.power + digits.length - 1
  if s.digits = 0 then "0" ++ layout.wholeMark
  else if layout.leastPositional ≤ lead ∧ lead ≤ layout.greatestPositional then
    if 0 ≤ s.power then
      String.ofList (digits ++ List.replicate s.power.toNat '0') ++ layout.wholeMark
    else if 0 ≤ lead then
      String.ofList (digits.take (lead.toNat + 1) ++ '.' :: digits.drop (lead.toNat + 1))
    else
      String.ofList ('0' :: '.' :: (List.replicate (-lead - 1).toNat '0' ++ digits))
  else
    let mantissa := match digits with
      | [] => ""
      | [d] => d.toString
      | d :: more => String.ofList (d :: '.' :: more)
    mantissa ++
      (if 0 ≤ lead then layout.positiveExponent ++ toString lead.toNat
       else layout.negativeExponent ++ toString (-lead).toNat)

/-- The text of a double-precision number: its shortest decimal, after a sign if it has one. -/
def Double.text (x : Double) : String :=
  (if x.negative then "-" else "") ++ Layout.standard.text (shortest x)

end RevisionControl.Decimal
