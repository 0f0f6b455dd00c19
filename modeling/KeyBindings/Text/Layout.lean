/-!
# Text in columns and lines

A text is padded to a column with blanks, a number with zeros. A line of limited width takes as many
words as fit on it. A word that is too long for any line is cut where the line ends. The blank at
which a line is broken is left out, unless such a cut comes right behind it.
-/
namespace KeyBindings.Text

/-- A text with blanks after it, up to a width in characters. -/
def padRight (width : Nat) (text : String) : String :=
  text ++ String.ofList (List.replicate (width - text.length) ' ')

/-- The digits of a number, with zeros before them up to a width. -/
def padNumber (width value : Nat) : List Char :=
  let digits := Nat.toDigits 10 value
  List.replicate (width - digits.length) '0' ++ digits

/-- A line without the blank at its end. -/
def withoutLastBlank (line : List Char) : List Char :=
  if line.getLast? = some ' ' then line.dropLast else line

/-- How many characters of a word that is too long go to the end of a line. An empty line
takes at least one. -/
def roomFor (width : Nat) (line : List Char) : Nat :=
  if line.isEmpty then max 1 width else width - line.length

/-- The characters of the pieces to come, each piece counted as one more. -/
def pending : List (List Char) → Nat
  | [] => 0
  | piece :: rest => piece.length + 1 + pending rest

/-- Put words, and the blanks between them, on lines, from a line that is begun. -/
def fillLines (width : Nat) (line : List Char) (pieces : List (List Char)) : List (List Char) :=
  match pieces with
  | [] => if line.isEmpty then [] else [withoutLastBlank line]
  | piece :: rest =>
    if line.isEmpty && piece = [' '] then fillLines width [] rest
    else if line.length + piece.length ≤ width then fillLines width (line ++ piece) rest
    else if width < piece.length then
      let room := roomFor width line
      (line ++ piece.take room) :: fillLines width [] (piece.drop room :: rest)
    else withoutLastBlank line :: fillLines width [] (piece :: rest)
termination_by 2 * pending pieces + min 1 line.length
decreasing_by
  · simp only [pending, List.length_nil]
    omega
  · simp only [pending]
    omega
  · simp only [pending, List.length_drop, List.length_nil]
    rename_i long
    cases line with
    | nil => simp only [roomFor, List.isEmpty_nil, if_true, List.length_nil]; omega
    | cons c line => simp only [List.length_cons]; omega
  · simp only [List.length_nil]
    omega

/-- The lines of a text of words with single blanks between them. -/
def wrap (width : Nat) (text : String) : List String :=
  let words := (text.splitOn " ").map String.toList
  (fillLines width [] (words.intersperse [' '])).map String.ofList

end KeyBindings.Text
