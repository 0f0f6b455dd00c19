import KeyBindings.Number.Binary
import KeyBindings.Text.Layout

/-!
# Numbers with a point

A number with a point has a sign, which even zero has, and a size of 53 binary digits. What
is too large for that is endless. A number is written with the fewest digits that are read as
the same number. Where the first of them stands decides whether it is written with a point in
its place, or with an exponent.
-/
namespace KeyBindings

inductive Fractional where
  | finite (negative : Bool) (size : Binary)
  | endless (negative : Bool)
  /-- No number at all. -/
  | undefined
  deriving DecidableEq, Repr

/-- How the digits of a number are laid out. -/
structure NumberForm where
  /-- The lowest power of ten that the first digit of a number without exponent can stand for. -/
  lowest : Int
  /-- The power of ten from which on there is an exponent. -/
  limit : Int
  /-- The least number of digits of an exponent. -/
  exponentWidth : Nat
  deriving DecidableEq, Repr

namespace NumberForm

/-- Digits with a point that `count` of them stand before. -/
def withPoint (digits : List Char) (count : Int) : List Char :=
  if count ≤ 0 then '0' :: '.' :: List.replicate (-count).toNat '0' ++ digits
  else
    let whole := digits.take count.toNat
    let behind := digits.drop count.toNat
    whole ++ List.replicate (count.toNat - whole.length) '0' ++
      '.' :: if behind.isEmpty then ['0'] else behind

/-- Digits with a point behind the first of them, when there are more, and an exponent. -/
def withExponent (form : NumberForm) (digits : List Char) (exponent : Int) : List Char :=
  let mantissa := match digits with
    | first :: next :: rest => first :: '.' :: next :: rest
    | digits => digits
  let sign := if exponent < 0 then '-' else '+'
  mantissa ++ 'e' :: sign :: Text.padNumber form.exponentWidth exponent.natAbs

/-- Write the number `digits * 10 ^ power`. -/
def write (form : NumberForm) (digits : Nat) (power : Int) : List Char :=
  let shown := Nat.toDigits 10 digits
  let count := power + shown.length
  if form.lowest ≤ count - 1 && count - 1 < form.limit then withPoint shown count
  else form.withExponent shown (count - 1)

end NumberForm

namespace Fractional

/-- The number that is nearest to a decimal one. -/
def ofDecimal (number : Decimal) : Fractional :=
  match Binary.ofDecimal? number with
  | some size => .finite number.negative size
  | none => .endless number.negative

/-- Zero less a number. Zero less zero has no sign. -/
def opposite : Fractional → Fractional
  | .finite negative size => .finite (!negative && size.significand ≠ 0) size
  | .endless negative => .endless !negative
  | .undefined => .undefined

/-- The words for numbers that have no digits. -/
def words : List (List Char × Fractional) :=
  [(['i', 'n', 'f'], .endless false), (['i', 'n', 'f', 'i', 'n', 'i', 't', 'y'], .endless false),
   (['n', 'a', 'n'], .undefined)]

/-- The number that a text spells, with digits or a word of either case. -/
def read? (text : List Char) : Option Fractional :=
  let (negative, rest) := Text.cutSign (Text.trimWhere (· = ' ') (Text.plainNumber text))
  match words.lookup (rest.map Char.toLower) with
  | some number => some (if negative then number.opposite else number)
  | none => (Decimal.read? text).map ofDecimal

/-- Why there is no whole part. -/
inductive WholeFault where
  | endless
  | undefined
  deriving DecidableEq, Repr

def WholeFault.message : WholeFault → String
  | .endless => "cannot convert float infinity to integer"
  | .undefined => "cannot convert float NaN to integer"

/-- The whole part. What is behind the point is dropped, whatever the sign. -/
def whole : Fractional → Except WholeFault Int
  | .finite negative size => .ok (Text.signed negative size.whole)
  | .endless _ => .error .endless
  | .undefined => .error .undefined

def isZero : Fractional → Bool
  | .finite _ size => size.significand = 0
  | _ => false

/-- Numbers from a ten-thousandth up to the sixteenth power of ten stand without an exponent, and
an exponent has a sign and two digits or more. -/
def usual : NumberForm := { lowest := -4, limit := 16, exponentWidth := 2 }

/-- A text behind its sign. -/
def withSign (negative : Bool) (text : List Char) : String :=
  String.ofList (if negative then '-' :: text else text)

def text : Fractional → String
  | .finite negative size =>
    let (digits, power) := size.shortest
    withSign negative (usual.write digits power)
  | .endless negative => withSign negative ['i', 'n', 'f']
  | .undefined => "nan"

end Fractional

end KeyBindings
