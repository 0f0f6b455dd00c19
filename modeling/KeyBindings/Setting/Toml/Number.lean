import KeyBindings.Setting
import KeyBindings.Text.Pieces

/-!
# Numbers of a document

A number may have a sign, a mark of its base, and underscores between its digits. How it is
written is checked in two ways: zeros at the start and misplaced underscores are found before
the underscores are dropped, and what is left must be a number.
-/
namespace KeyBindings.Toml

/-- Does one of two characters follow the other? -/
def areNeighbours (a b : Char) (text : List Char) : Bool :=
  Text.holds [a, b] text || Text.holds [b, a] text

/-- Does zero, at the start of a number, mark a base or stand before a point? -/
def mayFollowZero (c : Char) : Bool := c = '.' || c = 'o' || c = 'b' || c = 'x'

/-- Is there no zero too many at the start of digits behind a sign? -/
def startsWell : List Char → Bool
  | '0' :: second :: _ => second = '.'
  | _ => true

/-- Are the zeros and underscores of a number where they may be? A text of one character
always has them so. -/
def isWellFormed (value : List Char) : Bool :=
  let value := Text.trim value
  if value.isEmpty || value.head? = some '_' || value.getLast? = some '_' then false
  else if areNeighbours '_' '.' value then false
  else match value with
    | [_] => true
    | first :: second :: rest =>
      if first = '0' && !mayFollowZero second then false
      else
        let isSigned := first = '+' || first = '-'
        let digits := if isSigned then second :: rest else value
        (!isSigned || startsWell digits) && !Text.holds ['_', '_'] digits
    | [] => false

def withoutUnderscores (text : List Char) : List Char := text.filter (· ≠ '_')

/-- A value that is cut off at its equals sign, as it is looked at in search of a number. -/
def numberBehindEquals (value : List Char) : List Char :=
  if value.head?.any Char.isDigit then withoutUnderscores value else value

def isFractional (digits : List Char) : Bool :=
  digits.contains '.' || (!digits.contains 'x' && (digits.contains 'e' || digits.contains 'E'))

/-- The number with a point or an exponent that some digits spell. There are digits at the
start and behind the point. -/
def readFractional? (negative : Bool) (digits : List Char) : Option Setting := do
  let endsInPoint := (digits.dropWhile (· ≠ '.')).length = 1
  if endsInPoint || !digits.head?.any Char.isDigit then none
  else
    let number := Fractional.ofDecimal (← Decimal.read? digits)
    return .fractional (if negative then number.opposite else number)

/-- The words for numbers that have no digits. -/
def numberWords : List (List Char × Fractional) :=
  [(['i', 'n', 'f'], .endless false), (['n', 'a', 'n'], .undefined)]

def readNumber? (value : List Char) : Option Setting :=
  let (negative, rest) := Text.cutSign value
  let digits := withoutUnderscores rest
  if isFractional digits then readFractional? negative digits
  else match numberWords.lookup (digits.map Char.toLower), Text.readMarked digits with
    | some number, _ => some (.fractional (if negative then number.opposite else number))
    | none, .ok number => some (.whole (if negative then -number else number))
    | none, .error _ => none

end KeyBindings.Toml
