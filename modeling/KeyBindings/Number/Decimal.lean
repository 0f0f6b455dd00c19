import KeyBindings.Text.Integer
import KeyBindings.Text.Pieces

/-!
# Decimal numbers with a point

A decimal number is written with a sign, digits around a point, and an exponent. The sign,
the point and the exponent may be left out, and so may the digits on one side of the point.
-/
namespace KeyBindings

/-- The number `digits * 10 ^ exponent`, with its sign. -/
structure Decimal where
  negative : Bool
  digits : Nat
  exponent : Int
  deriving DecidableEq, Repr

namespace Decimal

/-- The digits at the start of a text, with what follows them. An underscore must stand
between two digits. -/
def cutDigits? (text : List Char) : Option (List Nat × List Char) :=
  let isPart := fun c => c.isDigit || c = '_'
  let run := text.takeWhile isPart
  if run.head? = some '_' || !Text.separatesDigits run then none
  else some (run.filterMap (Text.baseValue? 10), text.dropWhile isPart)

/-- The exponent that fills the end of a text. -/
def readExponent? : List Char → Option Int
  | [] => some 0
  | mark :: rest => do
    let (negative, digits) := Text.cutSign rest
    match ← cutDigits? digits with
    | (digit :: more, []) =>
      if mark = 'e' || mark = 'E' then some (Text.signed negative (Text.ofBase 10 (digit :: more)))
      else none
    | _ => none

/-- The digits behind a point at the start of a text, with what follows them. -/
def cutPlaces? : List Char → Option (List Nat × List Char)
  | '.' :: rest => cutDigits? rest
  | rest => some ([], rest)

def read? (text : List Char) : Option Decimal := do
  let (negative, rest) := Text.cutSign (Text.trimWhere (· = ' ') (Text.plainNumber text))
  let (whole, rest) ← cutDigits? rest
  let (places, rest) ← cutPlaces? rest
  let exponent ← readExponent? rest
  if (whole ++ places).isEmpty then none
  else some ⟨negative, Text.ofBase 10 (whole ++ places), exponent - places.length⟩

end Decimal

end KeyBindings
