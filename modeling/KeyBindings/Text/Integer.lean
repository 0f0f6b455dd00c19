import KeyBindings.Text.Classes

/-!
# Whole numbers written as text

White space may stand around a number, a sign before it, and a single underscore between two
digits. The digits may be of any script. A number in another base than ten is marked by its
first two characters. Numbers of more decimal digits than the limit are neither read nor
written, because that would take too long.
-/
namespace KeyBindings.Text

/-- How many decimal digits a number may have that is read or written. -/
def digitLimit : Nat := 4300

/-- Why a text spells no number. -/
inductive IntegerFault where
  | noNumber
  | tooLong (digits : Nat)
  deriving DecidableEq, Repr

/-- A text with ASCII digits in place of those of other scripts, and with plain spaces in
place of all that may stand around a number. -/
def plainNumber (text : List Char) : List Char :=
  text.map fun c =>
    match digitValue? c with
    | some value => Char.ofNat (48 + value)
    | none => if surroundsNumber c then ' ' else c

/-- Does every underscore stand between two digits? -/
def separatesDigits : List Char → Bool
  | [] => true
  | ['_'] => false
  | '_' :: '_' :: _ => false
  | _ :: rest => separatesDigits rest

/-- Is the number of digits limited in a base? Digits of the bases that are powers of two
cost no time. -/
def isLimited (base : Nat) : Bool := base = 10

/-- The number at the end of a text, in a base. -/
def readDigits (base : Nat) (text : List Char) : Except IntegerFault Nat :=
  let isPart := fun c => (baseValue? base c).isSome || c = '_'
  let run := text.takeWhile isPart
  let digits := run.filterMap (baseValue? base)
  if run.head?.all (· = '_') || !separatesDigits run then .error .noNumber
  else if isLimited base && digitLimit < digits.length then .error (.tooLong digits.length)
  else if (text.dropWhile isPart).all (· = ' ') then .ok (ofBase base digits)
  else .error .noNumber

/-- Is a text that starts so a negative number, and what follows the sign? -/
def cutSign : List Char → Bool × List Char
  | '-' :: rest => (true, rest)
  | '+' :: rest => (false, rest)
  | rest => (false, rest)

/-- A magnitude with its sign. -/
def signed (negative : Bool) (magnitude : Nat) : Int :=
  if negative then -(magnitude : Int) else magnitude

/-- The number that a text spells in base ten. -/
def readInteger (text : String) : Except IntegerFault Int :=
  let (negative, digits) := cutSign ((plainNumber text.toList).dropWhile (· = ' '))
  (readDigits 10 digits).map (signed negative)

/-- The base that the start of a number marks, with the digits behind the mark. -/
def cutMark : List Char → Option (Nat × List Char)
  | '0' :: mark :: digits =>
    match [('x', 16), ('o', 8), ('b', 2)].lookup mark.toLower with
    | some base => some (base, digits)
    | none => none
  | _ => none

/-- The number that a text spells in the base that it marks, or else in base ten. Without a
mark only zero may start with a zero. -/
def readMarked (text : List Char) : Except IntegerFault Int :=
  let (negative, digits) := cutSign ((plainNumber text).dropWhile (· = ' '))
  match cutMark digits with
  | some (base, digits) => (readDigits base digits).map (signed negative)
  | none => do
    let magnitude ← readDigits 10 digits
    if digits.head? = some '0' && magnitude ≠ 0 then .error .noNumber
    else .ok (signed negative magnitude)

/-- A number as text, in base ten. -/
def writeInteger? (value : Int) : Option String :=
  if value.natAbs < Nat.pow 10 digitLimit then some (toString value) else none

/-- What is said of a number that is too long to be written. -/
def unwritableMessage : String :=
  s!"Exceeds the limit ({digitLimit} digits) for integer string conversion; " ++
  "use sys.set_int_max_str_digits() to increase the limit"

/-- What is said of a number that is too long to be read. -/
def unreadableMessage (digits : Nat) : String :=
  s!"Exceeds the limit ({digitLimit} digits) for integer string conversion: " ++
  s!"value has {digits} digits; use sys.set_int_max_str_digits() to increase the limit"

end KeyBindings.Text
