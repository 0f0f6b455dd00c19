import KeyBindings.Text.Classes

/-!
# Pieces of a text

A text is cut at a mark of one or more characters, into fields that blanks separate, or into
lines. The pieces joined by a mark are the text again, and there is one piece more than there are
marks. An empty field is none. A line ends at a line feed; text read from a file has its other line
ends, a carriage return alone or before a line feed, turned into line feeds first.
-/
namespace KeyBindings.Text

/-! ### Pieces between marks -/

/-- The pieces of a text between the places where a mark stands. The first `skip` characters
belong to a mark that was met before. -/
def piecesFrom (mark : List Char) : Nat → List Char → List (List Char)
  | _, [] => [[]]
  | skip + 1, _ :: rest => piecesFrom mark skip rest
  | 0, c :: rest =>
    if mark.isPrefixOf (c :: rest) then [] :: piecesFrom mark (mark.length - 1) rest
    else match piecesFrom mark 0 rest with
      | [] => [[c]]
      | piece :: others => (c :: piece) :: others

def pieces (mark text : List Char) : List (List Char) := piecesFrom mark 0 text

/-- Pieces put together with a mark between them. -/
def joined (mark : List Char) (pieces : List (List Char)) : List Char := mark.intercalate pieces

def countOf (mark text : List Char) : Nat := (pieces mark text).length - 1

def holds (mark text : List Char) : Bool := countOf mark text ≠ 0

/-! ### Fields -/

/-- A text without the characters of one class at its two ends. -/
def trimWhere {α : Type} (blank : α → Bool) (text : List α) : List α :=
  ((text.dropWhile blank).reverse.dropWhile blank).reverse

/-- A text without the white space at its two ends. -/
def trim (text : List Char) : List Char := trimWhere isWhiteSpace text

/-- The fields of a text, which runs of one class of characters separate. -/
def fieldsWhere {α : Type} (blank : α → Bool) : List α → List (List α)
  | [] => []
  | c :: rest =>
    if blank c then fieldsWhere blank rest
    else match rest.head?.all blank, fieldsWhere blank rest with
      | false, field :: others => (c :: field) :: others
      | _, fields => [c] :: fields

/-! ### Lines -/

/-- The lines of a text, without their line feeds. Nothing follows a last line feed. -/
def linesOf : List Char → List (List Char)
  | [] => []
  | c :: rest =>
    if c = '\n' then [] :: linesOf rest
    else match linesOf rest with
      | [] => [[c]]
      | line :: others => (c :: line) :: others

/-- One kind of line end in place of three. -/
def unifyLineEnds : List Char → List Char
  | '\r' :: '\n' :: rest => '\n' :: unifyLineEnds rest
  | '\r' :: rest => '\n' :: unifyLineEnds rest
  | c :: rest => c :: unifyLineEnds rest
  | [] => []

def lines (text : String) : List String := (linesOf text.toList).map String.ofList

/-- Lines, each closed by a line feed. -/
def unlines (lines : List String) : String := String.join (lines.map (· ++ "\n"))

end KeyBindings.Text
