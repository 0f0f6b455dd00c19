import KeyBindings.Moment
import KeyBindings.Number.Binary
import KeyBindings.Text.Integer

/-!
# Days and times of a document

The numbers of a day, and of a time on it, stand at fixed places; which characters stand
between them is not looked at. What follows the seconds, digits behind a point and a zone, is
left out when any of it cannot be read. A time alone is made of digits and colons, whatever
follows it.
-/
namespace KeyBindings.Toml

/-! ## A day, and a time on it -/

/-- The number that the characters of a text from one place up to another spell. -/
def readPart? (first last : Nat) (text : List Char) : Option Int :=
  (Text.readInteger (String.ofList ((text.take last).drop first))).toOption

/-- The natural number at a place of a text. -/
def readNatural? (first last : Nat) (text : List Char) : Option Nat :=
  (readPart? first last text).bind Int.toNat?

/-- How many digits millionths of a second have. -/
def microWidth : Nat := 6

/-- A number divided by a power of ten, without what is behind the point. The division is one
of numbers of limited size and precision. -/
def scaleDown? (value : Int) (places : Nat) : Option Int := do
  let size ← Binary.ofDecimal? ⟨false, value.natAbs, 0⟩
  let factor ← Binary.ofDecimal? ⟨false, 1, -(places : Int)⟩
  return Text.signed (value < 0) (size.times factor).whole

/-- How many millionths of a second some digits behind a point stand for, if there are not too
many. -/
def microOf? (value : Int) (places : Nat) : Option Int :=
  if places ≤ microWidth then some (value * Nat.pow 10 (microWidth - places))
  else scaleDown? value (places - microWidth)

/-- The minutes that a zone is ahead of universal time: a sign, two places for the hours, and
behind one more character two for the minutes. -/
def readZone? (text : List Char) : Option Int := do
  if text = ['Z'] then some 0
  else
    let ahead := (← readPart? 1 3 text) * 60 + (← readPart? 4 6 text)
    return if text.head? = some '-' then -ahead else ahead

/-- Digits cut from the zone that follows them. A zone is a letter at the end, or begins with
a sign. -/
def cutZone (text : List Char) : List Char × Option (List Char) :=
  if text.getLast? = some 'Z' || text.getLast? = some 'z' then (text.dropLast, some ['Z'])
  else
    match ['+', '-'].find? text.contains with
    | some sign => (text.takeWhile (· ≠ sign), some (text.dropWhile (· ≠ sign)))
    | none => (text, none)

/-- What follows the seconds: millionths of a second, unless there are too many digits, and a
zone. -/
structure Tail where
  micro? : Option Int := some 0
  zone : Option Int := none

/-- Read what follows the seconds. -/
def readTail? : List Char → Option Tail
  | [] => some {}
  | '.' :: rest => do
    let (digits, zone) := cutZone rest
    let zone ← zone.mapM readZone?
    let value ← readPart? 0 digits.length digits
    return ⟨microOf? value digits.length, zone⟩
  | zone => do return { zone := ← readZone? zone }

/-- Where the day, the time and what follows them begin and end. -/
def dayLength : Nat := 10
def tailStart : Nat := 19

/-- The day at the start of a text. -/
def readDay? (text : List Char) : Option Day := do
  let date : Day :=
    { year := ← readNatural? 0 4 text
      month := ← readNatural? 5 7 text
      day := ← readNatural? 8 dayLength text }
  if date.isReal then some date else none

/-- What follows the seconds in a text, if it can be read. -/
def tailOf (text : List Char) : Tail := (readTail? (text.drop tailStart)).getD {}

/-- The moment that a text spells. There is a hyphen in it, which is not its sign. -/
def readMoment? (text : List Char) : Option Moment := do
  if !(text.drop 1).contains '-' then none
  else
    let date ← readDay? text
    if text.length = dayLength then some (.day date)
    else
      let tail := tailOf text
      let clock : Clock :=
        { hour := ← readNatural? 11 13 text
          minute := ← readNatural? 14 16 text
          second := ← readNatural? 17 tailStart text
          micro := ← (← tail.micro?).toNat? }
      if clock.isReal then some (.both date clock tail.zone) else none

/-! ## A time alone -/

/-- Does a text begin like a time of day? -/
def beginsWithTime (text : List Char) : Bool :=
  match text with
  | a :: b :: ':' :: c :: d :: ':' :: e :: f :: _ => [a, b, c, d, e, f].all Char.isDigit
  | _ => false

/-- How many digits may stand behind the point of a time alone. -/
def leastPlaces : Nat := 3
def mostPlaces : Nat := 6

/-- The number behind the point of a time alone. It is taken as it is, however many digits it
has, and is zero when it has too few. -/
def readPlaces (text : List Char) : Nat :=
  match text with
  | '.' :: rest =>
    let digits := (rest.take mostPlaces).takeWhile Char.isDigit
    if leastPlaces ≤ digits.length then (readNatural? 0 digits.length digits).getD 0 else 0
  | _ => 0

def readTime? (text : List Char) : Option Clock := do
  let clock : Clock :=
    { hour := ← readNatural? 0 2 text
      minute := ← readNatural? 3 5 text
      second := ← readNatural? 6 8 text
      micro := readPlaces (text.drop 8) }
  if clock.isReal then some clock else none

end KeyBindings.Toml
