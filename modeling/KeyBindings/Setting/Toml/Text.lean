import KeyBindings.Text.CodePoint
import KeyBindings.Text.Pieces

/-!
# Texts between quotes

Escapes stand in texts between double quotes. First the code points are put in, which are
given by four or eight hexadecimal digits, then the other escapes are carried out on the
whole text, its quotes included; so a backslash that is given by its code point begins an
escape of its own. A surrogate can be given by eight digits and stands alone then.
-/
namespace KeyBindings.Toml

open Text (CodePoint)

/-- What a backslash and a letter stand for. -/
def escapes : List (Char × Char) :=
  [('0', '\x00'), ('b', '\x08'), ('f', '\x0c'), ('n', '\n'), ('r', '\r'), ('t', '\t'), ('"', '"')]

/-- Letters behind a backslash that give a code point. -/
def isPointMark (c : Char) : Bool := c = 'u' || c = 'U'

/-- A text with its escapes carried out. Code points that are still given by digits stay. -/
def unescape? : List CodePoint → Option (List CodePoint)
  | [] => some []
  | [.scalar '\\'] => some [.scalar '\\']
  | .scalar '\\' :: .surrogate _ :: _ => none
  | .scalar '\\' :: .scalar c :: rest =>
    if isPointMark c then (unescape? rest).map fun text => .scalar '\\' :: .scalar c :: text
    else if c = '\\' then (unescape? rest).map (.scalar '\\' :: ·)
    else do
      let meant ← escapes.lookup c
      return .scalar meant :: (← unescape? rest)
  | point :: rest => (unescape? rest).map (point :: ·)

/-- Are there escapes of known letters only? The pieces are those between backslashes, and an
empty piece stands between two of them. `doubled` says whether the backslash before the
first piece is itself escaped. -/
def hasKnownEscapes (doubled : Bool) : List (List Char) → Bool
  | [] => true
  | [] :: rest => hasKnownEscapes (!doubled) rest
  | (c :: _) :: rest =>
    ((escapes.lookup c).isSome || isPointMark c || doubled) && hasKnownEscapes false rest

/-- Does a text end with an odd number of backslashes? -/
def endsOdd (text : List Char) : Bool := (text.reverse.takeWhile (· = '\\')).length % 2 = 1

/-- Do digits begin like those of a surrogate? -/
def beginsSurrogate : List Nat → Bool
  | 13 :: second :: _ => 7 < second
  | digits => digits = [13]

/-- The code point given by its hexadecimal digits. Digits that begin like those of a surrogate
give none; behind zeros a surrogate is one. -/
def readPoint? (digits : List Char) : Option CodePoint := do
  let values ← digits.mapM Text.hexValue?
  if values.isEmpty || beginsSurrogate values then none
  else CodePoint.ofNat? (Text.ofBase 16 values)

/-- Put code points in place of their `width` digits. The pieces are those between the marks,
and `kept` says whether the mark before the first of them is itself escaped. -/
def expandPieces? (mark : List Char) (width : Nat) (kept : Bool) :
    List (List Char) → Option (List CodePoint)
  | [] => some []
  | piece :: rest =>
    if kept then
      (expandPieces? mark width (endsOdd piece) rest).map fun text =>
        (mark ++ piece).map .scalar ++ text
    else do
      let point ← readPoint? (piece.take width)
      return point :: (piece.drop width).map .scalar ++ (← expandPieces? mark width false rest)

/-- Put code points in place of the digits that follow a mark. -/
def expandPoints? (mark : List Char) (width : Nat) (text : List Char) : Option (List CodePoint) :=
  match Text.pieces mark text with
  | [] => some (text.map .scalar)
  | first :: rest =>
    (expandPieces? mark width (endsOdd first) rest).map (first.map .scalar ++ ·)

/-- The pieces of a text behind its opening quote, and whether it is opened by three quotes. -/
def quotedPieces (quote : Char) (behind : List Char) : Bool × List (List Char) :=
  match Text.pieces [quote] behind with
  | [] :: [] :: rest => (true, rest)
  | pieces => (false, pieces)

/-- How far a text has been read in search of its closing quote. -/
structure Closing where
  closed : Bool := false
  /-- How many quotes follow each other. -/
  quotes : Nat := 0

/-- Does nothing follow the closing quote? A piece that ends with a backslash does not count. -/
def endsAtQuote (triple : Bool) (closing : Closing) : List (List Char) → Bool
  | [] => true
  | [] :: rest =>
    let closing :=
      if triple then { closing with quotes := closing.quotes + 1 } else { closing with closed := true }
    endsAtQuote triple closing rest
  | piece :: rest =>
    if endsOdd piece then endsAtQuote triple closing rest
    else if closing.closed then false
    else if !triple || 1 < closing.quotes then endsAtQuote triple { closing with closed := true } rest
    else endsAtQuote triple { closing with quotes := 0 } rest

/-- A text without its quotes, which are one or three at each end. -/
def withoutQuotes {α : Type} [DecidableEq α] (quote : α) (text : List α) : List α :=
  let inner := fun (text : List α) => (text.drop 1).dropLast
  match text with
  | [_, second] => if second = quote then [] else inner text
  | _ :: second :: third :: _ =>
    if second = quote && third = second then inner (text.drop 2).dropLast.dropLast else inner text
  | _ => []

/-- The text that a value between quotes gives. Four digits never give a surrogate. -/
def readText? (quote : Char) (value : List Char) : Option (List CodePoint) := do
  let (triple, pieces) := quotedPieces quote (value.drop 1)
  if !endsAtQuote triple {} pieces then none
  else if quote ≠ '"' then some ((withoutQuotes quote value).map .scalar)
  else if !hasKnownEscapes false ((Text.pieces ['\\'] value).drop 1) then none
  else
    let value ← Text.plain? (← expandPoints? ['\\', 'u'] 4 value)
    let value ← expandPoints? ['\\', 'U'] 8 value
    return withoutQuotes (.scalar quote) (← unescape? value)

/-- Cut a text at its quotes. The parts stand outside and inside quotes by turns. Of quotes of
both kinds the first decides; single quotes count only before the first double quote that is
not inside them. -/
def quotedParts (text : List Char) : List (List Char) :=
  match Text.pieces ['"'] text with
  | [] => []
  | [only] => Text.pieces ['\''] only
  | first :: rest =>
    if first.contains '\'' then closeSingle (Text.pieces ['\''] first) rest
    else Text.pieces ['\''] first ++ rest
where
  /-- Double quotes inside single ones are none: put pieces together until the single quotes
  are closed. -/
  closeSingle : List (List Char) → List (List Char) → List (List Char)
    | parts, [] => parts
    | parts, piece :: rest =>
      if parts.length % 2 = 0 then
        let last := parts.getLastD [] ++ '"' :: piece
        closeSingle (parts.dropLast ++ Text.pieces ['\''] last) rest
      else parts ++ Text.pieces ['\''] piece ++ rest

end KeyBindings.Toml
