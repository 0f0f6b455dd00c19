import KeyBindings.Host
import KeyBindings.Text.Pieces

/-!
# Environment files

An environment file sets variables by statements of the form `NAME=value`. The value may stand
between quotes, where it may have line ends, and a comment may follow it; `$` with a name in
braces stands for the value of another variable. A name without a value takes back what an
earlier statement said. A variable that is set already keeps its value.
-/
namespace KeyBindings.Variables

def isInlineBlank (c : Char) : Bool := Text.isWhiteSpace c && c ≠ '\n'

/-- The text between two quotes, with what follows it. A backslash takes the quote behind it
along, unless no other quote is left to close the text. -/
def readQuoted? (quote : Char) : List Char → Option (List Char × List Char)
  | [] => none
  | [c] => if c = quote then some ([], []) else none
  | c :: next :: rest =>
    if c = '\\' && next = quote then
      match readQuoted? quote rest with
      | some (chars, after) => some ('\\' :: quote :: chars, after)
      | none => some (['\\'], rest)
    else if c = quote then some ([], next :: rest)
    else (readQuoted? quote (next :: rest)).map fun (chars, after) => (c :: chars, after)

/-- What a backslash and a letter stand for between double quotes. -/
def doubleQuoteEscapes : List (Char × Char) :=
  [('\\', '\\'), ('\'', '\''), ('"', '"'), ('a', '\x07'), ('b', '\x08'), ('f', '\x0c'),
   ('n', '\n'), ('r', '\r'), ('t', '\t'), ('v', '\x0b')]

def singleQuoteEscapes : List (Char × Char) := [('\\', '\\'), ('\'', '\'')]

/-- Put what escapes stand for in their place. -/
def unescape (escapes : List (Char × Char)) : List Char → List Char
  | '\\' :: c :: rest =>
    match escapes.lookup c with
    | some meant => meant :: unescape escapes rest
    | none => '\\' :: unescape escapes (c :: rest)
  | c :: rest => c :: unescape escapes rest
  | [] => []
termination_by text => text.length

/-- A value without quotes, up to a comment that follows a blank. -/
def bareValue : List Char → List Char
  | [] => []
  | c :: rest =>
    if Text.isWhiteSpace c && (rest.dropWhile Text.isWhiteSpace).head? = some '#' then []
    else c :: bareValue rest

/-- Reading hands back what stands at the start of a text, with what follows it; or how the text
goes on where it cannot be read. -/
abbrev Reading := Except (List Char)

def readValue (text : List Char) : Reading (List Char × List Char) :=
  match text with
  | '\'' :: rest => quoted '\'' singleQuoteEscapes rest
  | '"' :: rest => quoted '"' doubleQuoteEscapes rest
  | _ =>
    let line := text.takeWhile (· ≠ '\n')
    .ok (Text.trim (bareValue line), text.dropWhile (· ≠ '\n'))
where
  /-- Read a value between quotes. -/
  quoted (quote : Char) (escapes : List (Char × Char)) (rest : List Char) :
      Reading (List Char × List Char) :=
    match readQuoted? quote rest with
    | some (value, after) => .ok (unescape escapes value, after)
    | none => .error text

/-- A text without the word `export` at its start. -/
def withoutExport (text : List Char) : List Char :=
  match text with
  | 'e' :: 'x' :: 'p' :: 'o' :: 'r' :: 't' :: c :: rest =>
    if isInlineBlank c then rest.dropWhile isInlineBlank else text
  | _ => text

def isNameChar (c : Char) : Bool := c ≠ '=' && c ≠ '#' && !Text.isWhiteSpace c

/-- Read a name. A comment has none. -/
def readName (text : List Char) : Reading (Option (List Char) × List Char) :=
  match text with
  | '#' :: _ => .ok (none, text)
  | '\'' :: rest =>
    match rest.takeWhile (· ≠ '\''), rest.dropWhile (· ≠ '\'') with
    | c :: name, _ :: after => .ok (some (c :: name), after)
    | _, _ => .error text
  | _ =>
    match text.takeWhile isNameChar with
    | [] => .error text
    | name => .ok (some name, text.dropWhile isNameChar)

def skipComment (text : List Char) : List Char :=
  match text.dropWhile isInlineBlank with
  | '#' :: rest => rest.dropWhile (· ≠ '\n')
  | _ => text

/-- Skip the blanks at the end of a line, and the line feed. -/
def endLine (text : List Char) : Reading (List Char) :=
  match text.dropWhile isInlineBlank with
  | [] => .ok []
  | '\n' :: rest => .ok rest
  | _ => .error text

/-- What a statement says of a variable: its value, or that it has none. -/
structure Statement where
  name : String
  value : Option (List Char)
  deriving DecidableEq, Repr

/-- Read the value behind a name, if there is one. -/
def readBinding (text : List Char) : Reading (Option (List Char) × List Char) :=
  match text.dropWhile isInlineBlank with
  | '=' :: rest => do
    let (value, rest) ← readValue (rest.dropWhile isInlineBlank)
    return (some value, rest)
  | rest => .ok (none, rest)

/-- Read a statement, or a comment. -/
def readStatement (text : List Char) : Reading (Option Statement × List Char) := do
  let (name, rest) ← readName (withoutExport text)
  let (value, rest) ← readBinding rest
  let rest ← endLine (skipComment rest)
  return (name.map fun name => ⟨String.ofList name, value⟩, rest)

/-- The statements of a text. Where none can be read, the rest of the line is passed over. -/
def readStatements : Nat → List Char → List Statement
  | 0, _ => []
  | limit + 1, text =>
    match text.dropWhile Text.isWhiteSpace with
    | [] => []
    | text =>
      match readStatement text with
      | .ok (some statement, rest) => statement :: readStatements limit rest
      | .ok (none, rest) => readStatements limit rest
      | .error rest => readStatements limit ((rest.dropWhile (· ≠ '\n')).drop 1)

/-- The name and the default value in a pair of braces. A colon must begin a default. -/
def splitDefault? (inside : List Char) : Option (List Char × List Char) :=
  let name := inside.takeWhile (· ≠ ':')
  match inside.dropWhile (· ≠ ':') with
  | [] => some (name, [])
  | ':' :: '-' :: value => some (name, value)
  | _ => none

/-- The name and the default value at the start of a text that follows an opening brace, with
what follows the closing one. -/
def readReference? (text : List Char) : Option (List Char × List Char × List Char) :=
  match text.dropWhile (· ≠ '\x7d') with
  | '\x7d' :: after => do
    let (name, otherwise) ← splitDefault? (text.takeWhile (· ≠ '\x7d'))
    return (name, otherwise, after)
  | _ => none

/-- Put the values of variables in place of their names in braces. -/
def substitute (lookup : String → Option String) : Nat → List Char → List Char
  | 0, text => text
  | _, [] => []
  | limit + 1, '$' :: '\x7b' :: rest =>
    match readReference? rest with
    | some (name, otherwise, after) =>
      ((lookup (String.ofList name)).map String.toList).getD otherwise ++ substitute lookup limit after
    | none => '$' :: '\x7b' :: substitute lookup limit rest
  | limit + 1, c :: rest => c :: substitute lookup limit rest

/-- Values of variables by name, in the order in which the names came up. A variable may have
been said to have none. -/
abbrev Values := List (String × Option String)

/-- Give a name another value, at its place or at the end. -/
def Values.put (name : String) (value : Option String) : Values → Values
  | [] => [(name, value)]
  | (other, old) :: rest =>
    if other = name then (name, value) :: rest else (other, old) :: Values.put name value rest

/-- What statements say of variables. Names in braces are looked up among the variables that
are set, then among those of the statements before. -/
def resolve (host : Host) (statements : List Statement) : Values :=
  statements.foldl (fun values statement =>
    let lookup := fun other =>
      (host.valueOf? other).or ((values.lookup other).map fun value => value.getD "")
    let value := statement.value.map fun text => String.ofList (substitute lookup text.length text)
    Values.put statement.name value values) []

/-- Set variables that are not set yet, up to one that cannot be set. -/
def setAll (host : Host) : Values → Host × Except VariableFault Unit
  | [] => (host, .ok ())
  | (_, none) :: rest => setAll host rest
  | (name, some value) :: rest =>
    match host.setDefault name value with
    | .ok host => setAll host rest
    | .error fault => (host, .error fault)

/-- Set the variables of a text that are not set yet, up to one that cannot be set. -/
def adopt (host : Host) (text : List Char) : Host × Except VariableFault Unit :=
  setAll host (resolve host (readStatements (text.length + 1) text))

end KeyBindings.Variables
