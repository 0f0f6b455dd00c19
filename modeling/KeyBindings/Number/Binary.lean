import KeyBindings.Number.Decimal

/-!
# Binary numbers of 53 digits

A decimal number is kept as the nearest number of 53 binary digits, of two equally near ones
as that with an even last digit. Between two such numbers there is a limit up to which
decimals are read as one of them. The shortest decimal of a number is the one on the coarsest
decimal grid that is read as the number again.
-/
namespace KeyBindings

/-- The number `significand * 2 ^ exponent`. -/
structure Binary where
  significand : Nat
  exponent : Int
  deriving DecidableEq, Repr

namespace Binary

/-- How many binary digits a number has. -/
def precision : Nat := 53

/-- The exponents of the last binary digit. -/
def leastExponent : Int := -1074
def greatestExponent : Int := 971

def zero : Binary := ⟨0, leastExponent⟩

/-- A power with an exponent of either sign, as numerator and denominator. -/
def ratioOfPower (base : Nat) (exponent : Int) : Nat × Nat :=
  (Nat.pow base exponent.toNat, Nat.pow base (-exponent).toNat)

/-- A quotient rounded to the nearest whole number, and to the even one of two. -/
def divideRound (numerator denominator : Nat) : Nat :=
  let quotient := numerator / denominator
  match compare (2 * (numerator % denominator)) denominator with
  | .lt => quotient
  | .gt => quotient + 1
  | .eq => quotient + quotient % 2

/-- The binary number that is nearest to a positive ratio. -/
def ofRatio (numerator denominator : Nat) : Binary :=
  let guess : Int := (numerator.log2 : Int) - denominator.log2 - precision
  let scaled (exponent : Int) : Nat × Nat :=
    let (above, below) := ratioOfPower 2 exponent
    (numerator * below, denominator * above)
  let (above, below) := scaled guess
  let exponent := max leastExponent (if above / below < Nat.pow 2 precision then guess else guess + 1)
  let (above, below) := scaled exponent
  let significand := divideRound above below
  if significand = Nat.pow 2 precision then ⟨significand / 2, exponent + 1⟩
  else ⟨significand, exponent⟩

/-- The powers of ten between which a number is neither too large nor as good as zero. -/
def greatestPower : Int := 310
def leastPower : Int := -330

/-- The binary number that is nearest to a decimal one, unless that is too large. -/
def ofDecimal? (number : Decimal) : Option Binary :=
  let power := number.exponent + (Nat.toDigits 10 number.digits).length
  if number.digits = 0 || power < leastPower then some zero
  else if greatestPower < power then none
  else
    let (above, below) := ratioOfPower 10 number.exponent
    let nearest := ofRatio (number.digits * above) below
    if greatestExponent < nearest.exponent then none else some nearest

def times (a b : Binary) : Binary :=
  let significand := a.significand * b.significand
  let (above, below) := ratioOfPower 2 (a.exponent + b.exponent)
  if significand = 0 then zero else ofRatio (significand * above) below

def whole (number : Binary) : Nat :=
  let (above, below) := ratioOfPower 2 number.exponent
  number.significand * above / below

/-- Compare `a * 10 ^ i` with `b * 2 ^ j`. -/
def compareScaled (a : Nat) (i : Int) (b : Nat) (j : Int) : Ordering :=
  let (tenOver, tenUnder) := ratioOfPower 10 i
  let (twoOver, twoUnder) := ratioOfPower 2 j
  compare (a * tenOver * twoUnder) (b * twoOver * tenUnder)

/-- The limits of what is read as a number, in quarters of its last binary digit. The number
below a power of two is only half as far away as the number above it. -/
def limits (number : Binary) : Nat × Nat :=
  let quarters := 4 * number.significand
  let isPower := number.significand = Nat.pow 2 (precision - 1) && leastExponent < number.exponent
  (if isPower then quarters - 1 else quarters - 2, quarters + 2)

/-- Is the decimal number `digits * 10 ^ power` read as this number? The limits themselves are
when the last binary digit is even. -/
def isReadFrom (number : Binary) (digits : Nat) (power : Int) : Bool :=
  let (low, high) := number.limits
  let closed := number.significand % 2 = 0
  let above := compareScaled digits power low (number.exponent - 2)
  let below := compareScaled digits power high (number.exponent - 2)
  (above == .gt || (closed && above == .eq)) && (below == .lt || (closed && below == .eq))

/-- The multiple of a power of ten that is read as a number, and the nearer one of two. -/
def onGrid? (number : Binary) (power : Int) : Option Nat :=
  let (tenOver, tenUnder) := ratioOfPower 10 power
  let (twoOver, twoUnder) := ratioOfPower 2 number.exponent
  let numerator := number.significand * twoOver * tenUnder
  let denominator := twoUnder * tenOver
  let below := numerator / denominator
  let fits := fun digits => digits ≠ 0 && number.isReadFrom digits power
  match fits below, fits (below + 1) with
  | true, true => some (divideRound numerator denominator)
  | true, false => some below
  | false, true => some (below + 1)
  | false, false => none

/-- The powers of ten that can be the last decimal place, from the largest down. -/
def places : List Int := (List.range 633).map fun (n : Nat) => 308 - (n : Int)

/-- The decimal number that is exactly equal to a binary one. -/
def exactDecimal (number : Binary) : Nat × Int :=
  if number.exponent < 0 then
    (number.significand * Nat.pow 5 (-number.exponent).toNat, number.exponent)
  else (number.significand * Nat.pow 2 number.exponent.toNat, 0)

/-- The shortest decimal number that is read as a number, as digits and the place of the last
one. -/
def shortest (number : Binary) : Nat × Int :=
  if number.significand = 0 then (0, 0)
  else (places.findSome? fun power => (number.onGrid? power).map fun digits => (digits, power)).getD
    number.exactDecimal

end Binary

end KeyBindings
