import KeyBindings.Text.Alphanumeric
import KeyBindings.Text.Pieces

/-!
# The lines of a document

A document is read twice. The first reading finds out where its lines really end: comments
are blanked, the line ends inside a list become spaces, and one that follows the opening
quotes of a block of text is dropped. It refuses names and quotes that are not closed and
names of unquoted characters other than letters, numbers, underscores and hyphens. What comes
of it are the lines that the second reading takes one by one.
-/
namespace KeyBindings.Toml

/-- What a line holds at some place: only blanks so far, a name, the blanks behind a name, or
what comes after it. -/
inductive Part where
  | start
  | name
  | behindName
  | rest
  deriving DecidableEq, Repr

/-- The brackets of a header that are open. -/
inductive Bracket where
  | none
  | table
  | tables
  deriving DecidableEq, Repr

/-- A document in the course of its first reading. -/
structure Reading where
  /-- What was read, last first. Behind the beginning of the text its end comes up again. -/
  seen : List Char
  part : Part := .start
  /-- Is the name made of several names? -/
  dotted : Bool := false
  /-- The quote of the text that is open. -/
  quote : Option Char := none
  /-- Is a block of text open, which goes on over line ends? -/
  block : Bool := false
  bracket : Bracket := .none
  /-- How many lists are open. -/
  depth : Int := 0
  /-- Is this a comment? -/
  comment : Bool := false
  deriving Repr

namespace Reading

/-- Take a character over. -/
def write (reading : Reading) (c : Char) : Reading := { reading with seen := c :: reading.seen }

def isQuote (c : Char) : Bool := c = '"' || c = '\''

/-- Is there an odd number of backslashes at the start of a text? -/
def startsOdd (text : List Char) : Bool := (text.takeWhile (· = '\\')).length % 2 = 1

/-- Does the character begin or continue a name behind a blank or a point? -/
def continuesName (c : Char) : Bool := !Text.isWhiteSpace c && c ≠ '.'

/-- The part of the line in which the next character stands, after a blank or a point behind
a name. -/
def partBefore (next : Char) : Part := if continuesName next then .name else .behindName

/-- What becomes of a character of a name. `ended` says that it is the equals sign behind the
name. -/
structure NameStep where
  reading : Reading
  ended : Bool := false

/-- Read a character of a name, or of the blanks behind it. -/
def nameStep? (reading : Reading) (c : Char) (next : Option Char) : Option NameStep :=
  let ended := if c = '=' then some ⟨{ reading with part := .rest, dotted := false }, true⟩ else none
  if c = '\n' then none
  else match reading.quote with
    | some quote =>
      -- A quote behind an odd number of backslashes does not end the name.
      if c = quote && !startsOdd reading.seen then
        some ⟨{ reading with part := .behindName, quote := none }, false⟩
      else some ⟨reading, false⟩
    | none =>
      if reading.part = .name then
        if Text.isWhiteSpace c then some ⟨{ reading with part := .behindName }, false⟩
        else if c = '.' then some ⟨{ reading with dotted := true }, false⟩
        else if Text.isAlphanumeric c || c = '_' || c = '-' then some ⟨reading, false⟩
        -- A quoted part may only stand right behind a dot.
        else if reading.dotted && reading.seen.head? = some '.' && isQuote c then
          some ⟨{ reading with quote := some c }, false⟩
        else ended
      else if Text.isWhiteSpace c then
        if reading.dotted then next.map fun next => ⟨{ reading with part := partBefore next }, false⟩
        else some ⟨reading, false⟩
      else if c = '.' then
        next.map fun next => ⟨{ reading with dotted := true, part := partBefore next }, false⟩
      else ended

/-- Open or close a text at a quote. Three quotes in a row open or close a block. -/
def turn (reading : Reading) (c : Char) : Reading :=
  let isThird := [c, c].isPrefixOf reading.seen
  let isOpen := if isThird then !reading.block else reading.quote.isNone
  { reading with
    block := if isThird then !reading.block else reading.block
    quote := if isOpen then some c else none }

/-- Is a double quote kept from being one by a backslash? A second quote in a row is not. -/
def isEscaped (seen : List Char) : Bool :=
  match seen with
  | '"' :: '"' :: before => startsOdd before
  | '"' :: _ => false
  | before => startsOdd before

/-- Take notice of a quote. The other kind of quote does not count inside a text. -/
def quoteStep (reading : Reading) (c : Char) : Reading :=
  if c = '\'' && reading.quote ≠ some '"' then reading.turn c
  else if c = '"' && reading.quote ≠ some '\'' && !isEscaped reading.seen then reading.turn c
  else reading

/-- Take notice of a bracket outside texts. -/
def bracketStep (reading : Reading) (c : Char) (next : Option Char) : Reading :=
  if reading.quote.isSome then reading
  else if c = '[' && reading.bracket = .none then
    if reading.part = .start then
      { reading with bracket := if next = some '[' then .tables else .table }
    else { reading with depth := reading.depth + 1 }
  else if c = ']' then
    match reading.bracket with
    | .table => { reading with bracket := .none }
    | .tables => if reading.seen.head? = some ']' then { reading with bracket := .none } else reading
    | .none => { reading with depth := reading.depth - 1 }
  else reading

/-- End a line inside a block. Two quotes before the line end come to stand at its place. -/
def endBlockLine (reading : Reading) : Reading :=
  match reading.seen with
  | first :: second :: third :: before =>
    if isQuote first && second = first then
      let third := if third = first then ' ' else third
      { reading with seen := first :: first :: second :: third :: before }
    else reading.write '\n'
  | _ => reading.write '\n'

/-- End a line. A text must not be open, unless it is a block. -/
def endLine? (reading : Reading) : Option Reading :=
  let reading := { reading with comment := false }
  if reading.block then some reading.endBlockLine
  else if reading.quote.isSome then none
  else if reading.depth ≠ 0 then some (reading.write ' ')
  else some { reading.write '\n' with part := .start }

/-- Begin a name, unless the character belongs to a header. -/
def beginName? (reading : Reading) (c : Char) : Option Reading :=
  if reading.part ≠ .start || c = ' ' || c = '\t' then some (reading.write c)
  else if reading.bracket ≠ .none then some { reading.write c with part := .rest }
  else if c = '=' then none
  else some { reading.write c with part := .name }

/-- Read a character outside a name. -/
def textStep? (reading : Reading) (c : Char) (next : Option Char) : Option Reading :=
  let reading := reading.quoteStep c
  if c = '#' && reading.quote.isNone && reading.bracket = .none then
    some { reading.write ' ' with comment := true }
  else
    let reading := reading.bracketStep c next
    if c = '\n' then reading.endLine? else reading.beginName? c

/-- Read a character, with a look at the next one. -/
def step? (reading : Reading) (c : Char) (next : Option Char) : Option Reading :=
  if reading.comment && c ≠ '\n' then some (reading.write ' ')
  else if reading.part = .name || reading.part = .behindName then do
    let step ← reading.nameStep? c next
    if step.ended then step.reading.textStep? c next else some (step.reading.write c)
  else reading.textStep? c next

def readAll? : Reading → List Char → Option Reading
  | reading, [] => some reading
  | reading, c :: rest => do readAll? (← reading.step? c rest.head?) rest

/-- May the document end here? -/
def isClosed (reading : Reading) : Bool :=
  reading.part ≠ .name && reading.part ≠ .behindName && reading.quote.isNone

end Reading

/-- The lines of a document, whose own line ends are line feeds. -/
def lines? (text : List Char) : Option (List (List Char)) := do
  let reading ← Reading.readAll? { seen := text.reverse } text
  if reading.isClosed then some (Text.pieces ['\n'] (reading.seen.take text.length).reverse) else none

end KeyBindings.Toml
