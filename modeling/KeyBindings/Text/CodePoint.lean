import KeyBindings.Text.Classes
import KeyBindings.Text.Quoted

/-!
# Code points

A code point is a character, or a surrogate that stands alone. A text with a surrogate in it
can be kept and shown between quotes, but there are no octets for it, so it names no file.
-/
namespace KeyBindings.Text

/-- One half of a pair that stands for a character where texts are made of units of 16 bits. -/
structure Surrogate where
  unit : Nat
  low : 0xD800 ≤ unit
  high : unit < 0xE000
  deriving DecidableEq, Repr

inductive CodePoint where
  | scalar (c : Char)
  | surrogate (half : Surrogate)
  deriving DecidableEq, Repr

namespace CodePoint

/-- The code point with a number, if there is one. -/
def ofNat? (point : Nat) : Option CodePoint :=
  if half : 0xD800 ≤ point ∧ point < 0xE000 then some (.surrogate ⟨point, half.1, half.2⟩)
  else if point ≤ 0x10FFFF then some (.scalar (Char.ofNat point))
  else none

def toNat : CodePoint → Nat
  | .scalar c => c.toNat
  | .surrogate half => half.unit

/-- The character of a code point that is no surrogate. -/
def char? : CodePoint → Option Char
  | .scalar c => some c
  | .surrogate _ => none

def surrogate? : CodePoint → Option Surrogate
  | .scalar _ => none
  | .surrogate half => some half

/-- A code point as it stands between two quotes. -/
def escaped (quote : Char) : CodePoint → List Char
  | .scalar c => Text.escaped quote c
  | .surrogate half => '\\' :: 'u' :: hexDigits 4 half.unit

def isAsciiBlank : CodePoint → Bool
  | .scalar c => Text.isAsciiBlank c
  | .surrogate _ => false

end CodePoint

/-! ### Texts of code points -/

abbrev Points := List CodePoint

/-- The code points of a text without surrogates. -/
def points (text : String) : Points := text.toList.map .scalar

instance : Coe String Points := ⟨points⟩

/-- The characters of a text without surrogates. -/
def plain? (text : Points) : Option (List Char) := text.mapM CodePoint.char?

def string? (text : Points) : Option String := (plain? text).map String.ofList

theorem plain?_map_scalar (text : List Char) : plain? (text.map .scalar) = some text := by
  induction text with
  | nil => rfl
  | cons c rest ih =>
    simp only [plain?, List.map_cons, List.mapM_cons] at *
    simp [ih, CodePoint.char?]

theorem plain?_eq_some {text : Points} {characters : List Char} (plain : plain? text = some characters) :
    text = characters.map .scalar := by
  induction text generalizing characters with
  | nil => cases plain; rfl
  | cons point rest ih =>
    cases point with
    | surrogate half => simp [plain?, CodePoint.char?] at plain
    | scalar c =>
      simp only [plain?, List.mapM_cons, CodePoint.char?, Option.pure_def, Option.bind_eq_bind,
        Option.bind_some, Option.bind_eq_some_iff, Option.some.injEq] at plain
      obtain ⟨others, found, rfl⟩ := plain
      rw [ih found, List.map_cons]

@[simp]
theorem string?_points (text : String) : string? (points text) = some text := by
  simp [string?, points, plain?_map_scalar]

theorem string?_eq_some_iff {text : Points} {characters : String} :
    string? text = some characters ↔ text = points characters := by
  constructor
  · intro found
    obtain ⟨plain, isPlain, rfl⟩ := Option.map_eq_some_iff.mp found
    simpa [points] using plain?_eq_some isPlain
  · rintro rfl
    exact string?_points characters

@[simp]
theorem points_inj {first second : String} : points first = points second ↔ first = second := by
  constructor
  · intro same
    exact Option.some.inj (by rw [← string?_points first, same, string?_points])
  · exact congrArg points

theorem map_points_inj {first second : List String} :
    first.map points = second.map points ↔ first = second :=
  List.map_inj_right fun _ _ => points_inj.mp

@[simp]
theorem points_append (first second : String) :
    points (first ++ second) = points first ++ points second := by
  simp [points]

theorem exists_singleton_of_points {text : String} {point : CodePoint} (single : points text = [point]) :
    ∃ c, point = .scalar c ∧ text = String.singleton c := by
  obtain ⟨c, characters, same⟩ := List.map_eq_singleton_iff.mp single
  exact ⟨c, same.symm, String.toList_inj.mp (by rw [characters, String.toList_singleton])⟩

/-- A text of code points between quotes. -/
def quotedPoints (text : Points) : String :=
  let quote := quoteFor (text.filterMap CodePoint.char?)
  String.ofList (quote :: text.flatMap (CodePoint.escaped quote) ++ [quote])

@[simp]
theorem quotedPoints_points (text : String) : quotedPoints (points text) = quoted text := by
  have characters : (text.toList.map CodePoint.scalar).filterMap CodePoint.char? = text.toList := by
    induction text.toList with
    | nil => rfl
    | cons c rest ih => simp [CodePoint.char?, ih]
  simp [quotedPoints, quoted, points, characters, List.flatMap_map, CodePoint.escaped]

/-! ### Surrogates in a text -/

/-- The first surrogates in a text: the characters before them, and those that follow each
other there. -/
structure SurrogateRun where
  before : List Char
  halves : List Surrogate
  deriving DecidableEq, Repr

def firstSurrogates (text : Points) : SurrogateRun :=
  let before := text.takeWhile fun point => point.char?.isSome
  let behind := (text.drop before.length).takeWhile fun point => point.surrogate?.isSome
  ⟨before.filterMap CodePoint.char?, behind.filterMap CodePoint.surrogate?⟩

/-- Why a text with surrogates has no octets. -/
def SurrogateRun.message (run : SurrogateRun) : String :=
  let position := run.before.length
  let place := match run.halves with
    | [half] => s!"character '\\u{String.ofList (hexDigits 4 half.unit)}' in position {position}"
    | halves => s!"characters in position {position}-{position + halves.length - 1}"
  s!"'utf-8' codec can't encode {place}: surrogates not allowed"

end KeyBindings.Text
