/-!
# Classes of characters

A class of characters is a list of closed ranges of code points. Three kinds of blank occur. The
keys file separates its fields by ASCII blanks only, so that other spaces can be key names.
Settings and environment files are cut at the white space of any script, to which the four
information separators belong. Around a number that is written as text stands white space
without these separators.

Each script with decimal digits has a run of ten consecutive code points, zero first. Names are
compared without regard to case; only what leads to ASCII letters can ever be equal to a name, so
only that is changed.
-/
namespace KeyBindings.Text

/-- A set of code points, as closed ranges in ascending order. -/
abbrev CodePoints := List (Nat × Nat)

def CodePoints.has (set : CodePoints) (c : Char) : Bool :=
  set.any fun range => range.1 ≤ c.toNat && c.toNat ≤ range.2

theorem CodePoints.has_iff (set : CodePoints) (c : Char) :
    set.has c = true ↔ ∃ range ∈ set, range.1 ≤ c.toNat ∧ c.toNat ≤ range.2 := by
  simp [CodePoints.has, List.any_eq_true]

/-! ### Blanks -/

/-- Space, tab, carriage return, line feed, form feed or vertical tab. -/
def isAsciiBlank (c : Char) : Bool :=
  c = ' ' || c = '\t' || c = '\r' || c = '\n' || c = '\x0c' || c = '\x0b'

/-- White space of any script, and the information separators. -/
def whiteSpace : CodePoints :=
  [(0x9, 0xD), (0x1C, 0x20), (0x85, 0x85), (0xA0, 0xA0), (0x1680, 0x1680), (0x2000, 0x200A),
   (0x2028, 0x2029), (0x202F, 0x202F), (0x205F, 0x205F), (0x3000, 0x3000)]

def isWhiteSpace (c : Char) : Bool := whiteSpace.has c

/-- The file, group, record and unit separators. -/
def informationSeparators : CodePoints := [(0x1C, 0x1F)]

/-- May the character stand around a number? -/
def surroundsNumber (c : Char) : Bool := isWhiteSpace c && !informationSeparators.has c

/-! ### Digits and letters -/

/-- The digit zero of every script with decimal digits. -/
def zeroDigits : List Nat :=
  [0x30, 0x660, 0x6F0, 0x7C0, 0x966, 0x9E6, 0xA66, 0xAE6, 0xB66, 0xBE6, 0xC66, 0xCE6, 0xD66,
   0xDE6, 0xE50, 0xED0, 0xF20, 0x1040, 0x1090, 0x17E0, 0x1810, 0x1946, 0x19D0, 0x1A80, 0x1A90,
   0x1B50, 0x1BB0, 0x1C40, 0x1C50, 0xA620, 0xA8D0, 0xA900, 0xA9D0, 0xA9F0, 0xAA50, 0xABF0, 0xFF10,
   0x104A0, 0x10D30, 0x11066, 0x110F0, 0x11136, 0x111D0, 0x112F0, 0x11450, 0x114D0, 0x11650,
   0x116C0, 0x11730, 0x118E0, 0x11950, 0x11C50, 0x11D50, 0x11DA0, 0x16A60, 0x16AC0, 0x16B50,
   0x1D7CE, 0x1D7D8, 0x1D7E2, 0x1D7EC, 0x1D7F6, 0x1E140, 0x1E2F0, 0x1E950, 0x1FBF0]

/-- The value of a decimal digit of any script. -/
def digitValue? (c : Char) : Option Nat :=
  (zeroDigits.find? fun first => first ≤ c.toNat && c.toNat < first + 10).map (c.toNat - ·)

/-- Characters outside ASCII whose capitals are ASCII letters. -/
def foreignCapitals : List (Char × List Char) :=
  [('ß', ['S', 'S']), ('ı', ['I']), ('ſ', ['S']), ('ﬀ', ['F', 'F']), ('ﬁ', ['F', 'I']),
   ('ﬂ', ['F', 'L']), ('ﬃ', ['F', 'F', 'I']), ('ﬄ', ['F', 'F', 'L']), ('ﬅ', ['S', 'T']),
   ('ﬆ', ['S', 'T'])]

def capitals (text : String) : String :=
  String.ofList (text.toList.flatMap fun c => (foreignCapitals.lookup c).getD [c.toUpper])

def smallLetters (text : String) : String := text.map Char.toLower

/-! ### Hexadecimal digits -/

/-- A hexadecimal digit, in lower case. -/
def hexDigit (value : Nat) : Char :=
  if value < 10 then Char.ofNat (48 + value) else Char.ofNat (87 + value)

/-- The last `count` hexadecimal digits of a number, in lower case. -/
def hexDigits : Nat → Nat → List Char
  | 0, _ => []
  | count + 1, value => hexDigits count (value / 16) ++ [hexDigit (value % 16)]

/-- The value of a hexadecimal digit, in either case. -/
def hexValue? (c : Char) : Option Nat :=
  if '0' ≤ c && c ≤ '9' then some (c.toNat - 48)
  else if 'a' ≤ c && c ≤ 'f' then some (c.toNat - 87)
  else if 'A' ≤ c && c ≤ 'F' then some (c.toNat - 55)
  else none

/-- The value of a digit of a base up to sixteen. -/
def baseValue? (base : Nat) (c : Char) : Option Nat := (hexValue? c).filter (· < base)

/-- The number that some digits spell in a base. -/
def ofBase (base : Nat) (digits : List Nat) : Nat :=
  digits.foldl (fun value digit => value * base + digit) 0

end KeyBindings.Text
