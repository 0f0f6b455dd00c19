import KeyBindings.Text.Layout

/-!
# Days and times

A moment is a day of the calendar, a time of day, or both together. With both there may be a
zone, which is given by how far its clocks are ahead of universal time. Zones are told by the
hour and minute, and none is a whole day away from universal time.
-/
namespace KeyBindings

structure Day where
  year : Nat
  month : Nat
  day : Nat
  deriving DecidableEq, Repr

namespace Day

/-- Every fourth year has a day more, but of the full centuries only every fourth. -/
def isLeapYear (year : Nat) : Bool := year % 4 = 0 && (year % 100 ≠ 0 || year % 400 = 0)

def daysIn (year month : Nat) : Nat :=
  if month = 2 then if isLeapYear year then 29 else 28
  else if [4, 6, 9, 11].contains month then 30
  else 31

/-- The years of the calendar, which have up to four digits. -/
def lastYear : Nat := 9999

/-- Is this a day of the calendar? -/
def isReal (date : Day) : Bool :=
  1 ≤ date.year && date.year ≤ lastYear && 1 ≤ date.month && date.month ≤ 12 &&
  1 ≤ date.day && date.day ≤ daysIn date.year date.month

def text (date : Day) : List Char :=
  Text.padNumber 4 date.year ++ '-' :: Text.padNumber 2 date.month ++
  '-' :: Text.padNumber 2 date.day

def numbers (date : Day) : List Nat := [date.year, date.month, date.day]

end Day

/-- A time of day, to the millionth of a second. -/
structure Clock where
  hour : Nat
  minute : Nat
  second : Nat
  micro : Nat
  deriving DecidableEq, Repr

namespace Clock

/-- Is this a time that a clock shows? -/
def isReal (clock : Clock) : Bool :=
  clock.hour < 24 && clock.minute < 60 && clock.second < 60 && clock.micro < 1000000

/-- Hours and minutes. -/
def hourText (hour minute : Nat) : List Char :=
  Text.padNumber 2 hour ++ ':' :: Text.padNumber 2 minute

/-- The hour, the minute and the second, and what is behind the second if there is anything. -/
def text (clock : Clock) : List Char :=
  let behind := if clock.micro = 0 then [] else '.' :: Text.padNumber 6 clock.micro
  hourText clock.hour clock.minute ++ ':' :: Text.padNumber 2 clock.second ++ behind

/-- The numbers of a time. The seconds are left out when nothing but zeros is left. -/
def numbers (clock : Clock) : List Nat :=
  let behind := if clock.micro = 0 then [] else [clock.micro]
  let seconds := if clock.second = 0 && behind.isEmpty then [] else clock.second :: behind
  clock.hour :: clock.minute :: seconds

end Clock

inductive Moment where
  | day (date : Day)
  | time (clock : Clock)
  /-- A time on a day. The zone is given by the minutes that it is ahead of universal time. -/
  | both (date : Day) (clock : Clock) (zone : Option Int)
  deriving DecidableEq, Repr

namespace Moment

/-- The name of a kind of moment in messages about its parts. -/
def shortKind : Moment → String
  | .day _ => "date"
  | .time _ => "time"
  | .both _ _ _ => "datetime"

/-- The name of a kind of moment in all other messages. -/
def kind (moment : Moment) : String := "datetime." ++ moment.shortKind

def minutesPerDay : Nat := 24 * 60

/-- A zone as text: its sign, hours and minutes. A zone that is too far away has none. -/
def zoneText? (zone : Int) : Option (List Char) :=
  if zone.natAbs < minutesPerDay then
    some ((if zone < 0 then '-' else '+') :: Clock.hourText (zone.natAbs / 60) (zone.natAbs % 60))
  else none

/-- What is said of a zone that is too far away. -/
def farZoneMessage : String :=
  "offset must be a timedelta strictly between -timedelta(hours=24) and timedelta(hours=24)."

def text? : Moment → Option String
  | .day date => some (String.ofList date.text)
  | .time clock => some (String.ofList clock.text)
  | .both date clock zone => do
    let zone ← (zone.map zoneText?).getD (some [])
    return String.ofList (date.text ++ ' ' :: clock.text ++ zone)

/-- A moment inside a list or table, as text: its kind and its numbers. Zones are not told. -/
def shown (moment : Moment) : String :=
  let numbers := match moment with
    | .day date => date.numbers
    | .time clock => clock.numbers
    | .both date clock _ => date.numbers ++ clock.numbers
  moment.kind ++ "(" ++ ", ".intercalate (numbers.map toString) ++ ")"

end Moment

end KeyBindings
