import KeyBindings.Setting.Merge
import KeyBindings.Setting.Toml.Moment
import KeyBindings.Setting.Toml.Number
import KeyBindings.Setting.Toml.Text

/-!
# Values and assignments

A value is a yes or no, a number, a day or time, a text between quotes, a list of values of one
kind, or a table between braces. An assignment gives a value to a name, or to a name inside
tables whose names stand before it. A block of text may go on over several lines; its
assignment is then left open.
-/
namespace KeyBindings.Toml

/-- A text without its first and last character. -/
def inside (text : List Char) : List Char := (text.drop 1).dropLast

def openingQuote? (text : List Char) : Option Char := text.head?.filter fun c => c = '"' || c = '\''

/-- Does a text begin and end with one quote? -/
def isQuoted (text : List Char) : Bool :=
  (openingQuote? text).isSome && text.head? = text.getLast?

/-! ## The items of a list -/

/-- Does an item that begins with a quote end with it? An odd number of backslashes keeps the
last quote from closing the item. -/
def closesQuote : List Char → Bool
  | [] => true
  | first :: rest => rest.getLast?.getD first = first && !endsOdd rest.dropLast

/-- Does an item begin with three quotes and not end with more than one? -/
def opensBlock : List Char → Bool
  | first :: second :: third :: rest =>
    let back := (first :: second :: third :: rest).reverse
    second = first && third = first && back[1]? ≠ some first && back[2]? ≠ some first
  | _ => false

/-- Put pieces of a list of texts together that a comma inside quotes has cut. `begun` is an
item that is not closed yet. The last item is not looked at. -/
def joinTexts? : Option (List Char) → List (List Char) → Option (List (List Char))
  | none, [] => some []
  | some _, [] => none
  | begun, piece :: rest =>
    if begun.isNone && rest.isEmpty then some [piece]
    else
      let item := (begun.map fun start => start ++ ',' :: piece).getD piece
      if closesQuote (Text.trim item) && !opensBlock (Text.trim item) then
        (joinTexts? none rest).map (item :: ·)
      else joinTexts? (some item) rest

/-- How far a list of tables has been read. -/
structure TableScan where
  /-- The table that is open, last character first. -/
  back : List Char
  depth : Nat
  inText : Bool := false

/-- Does a quote stand in a text, not kept by a backslash? -/
def TableScan.turn (scan : TableScan) (c : Char) : Bool :=
  if c = '"' || c = '\'' then
    if scan.inText then (scan.back.takeWhile (· = '\\')).length % 2 = 1 else true
  else scan.inText

/-- The tables of a list. Between two of them everything is passed over; `skip` says that the
next character is, whatever it is. -/
def tableItems : Option TableScan → Bool → List Char → List (List Char)
  | _, _, [] => []
  | none, skip, c :: rest =>
    if !skip && c = '\x7b' then tableItems (some ⟨[c], 1, false⟩) false rest
    else tableItems none false rest
  | some scan, _, c :: rest =>
    let inText := scan.turn c
    let back := c :: scan.back
    if !inText && c = '\x7b' then tableItems (some ⟨back, scan.depth + 1, inText⟩) false rest
    else if inText || c ≠ '\x7d' then tableItems (some ⟨back, scan.depth, inText⟩) false rest
    else if 1 < scan.depth then tableItems (some ⟨back, scan.depth - 1, inText⟩) false rest
    else back.reverse :: tableItems none true rest

/-- The items of a list of lists, which commas outside their brackets separate. -/
def listItems : List Char → Int → List Char → List (List Char)
  | back, _, [] => [back.reverse]
  | back, depth, c :: rest =>
    if c = '[' then listItems (c :: back) (depth + 1) rest
    else if c = ']' then listItems (c :: back) (depth - 1) rest
    else if c = ',' && depth = 0 then back.reverse :: listItems [] depth rest
    else listItems (c :: back) depth rest

/-- Do the items of a list begin with a list? -/
def beginsWithList (inner : List Char) : Bool :=
  inner.contains '[' && (Text.trim (inner.takeWhile (· ≠ '['))).isEmpty

/-- The items of a list, from its opening bracket to its closing one. Empty items are left out. -/
def items? (list : List Char) : Option (List (List Char)) := do
  let inner := inside (Text.trim list)
  let start := Text.trim inner
  let items ←
    if beginsWithList inner then some (listItems [] 0 inner)
    else if start.head? = some '\x7b' then
      match inner with
      | [] => some []
      | first :: rest =>
        let depth := if first = '\x7b' then 1 else 0
        some (tableItems (some ⟨[first], depth, false⟩) false rest)
    else if (openingQuote? start).isSome then joinTexts? none (Text.pieces [','] inner)
    else some (Text.pieces [','] inner)
  return (items.map Text.trim).filter fun item => !item.isEmpty

/-! ## The assignments of a table -/

/-- Is this the end of a value inside braces, and not a piece of one that a comma has cut? -/
def isWholeValue (value : List Char) : Bool :=
  isQuoted value || value.head?.any (fun c => c = '-' || c.isDigit) ||
  value = ['t', 'r', 'u', 'e'] || value = ['f', 'a', 'l', 's', 'e'] ||
  (value.head? = some '[' && value.getLast? = some ']') ||
  (value.head? = some '\x7b' && value.getLast? = some '\x7d')

/-- The assignments between two braces, which commas separate. `begun` is one that a comma
inside its value has cut. -/
def assignments? : Option (List Char) → List (List Char) → Option (List (List Char))
  | none, [] => some []
  | some _, [] => none
  | begun, piece :: rest =>
    let candidate := (begun.map fun start => start ++ ',' :: piece).getD piece
    let value := Text.trim ((candidate.dropWhile (· ≠ '=')).drop 1)
    if value.isEmpty then none
    else if isWholeValue value then (assignments? none rest).map (candidate :: ·)
    else assignments? (some candidate) rest

/-- The assignments of a table, from its opening brace to its closing one. -/
def tableAssignments? (table : List Char) : Option (List (List Char)) :=
  let inner := inside table
  if (Text.trim inner).isEmpty then some [] else assignments? none (Text.pieces [','] inner)

/-! ## Names and values -/

/-- The equals signs in the parts of a line up to the first one outside quotes. -/
def equalsBefore (quoted : Bool) : List (List Char) → Nat
  | [] => 0
  | part :: rest =>
    if !quoted && part.contains '=' then 0 else part.count '=' + equalsBefore (!quoted) rest

/-- Can a value stand behind its equals sign? Behind a blank, or with a quote or a bracket at
its start, anything can. -/
def isValueLike (value : List Char) : Bool :=
  match value with
  | [] => true
  | first :: _ =>
    [' ', '\t', '\'', '"', '[', '\x7b'].contains first ||
    Text.trim value = ['t', 'r', 'u', 'e'] || Text.trim value = ['f', 'a', 'l', 's', 'e'] ||
    (Fractional.read? value).isSome || (readMoment? value).isSome || beginsWithTime value

/-- A line cut at the equals sign between its name and its value. -/
structure Cut where
  name : List Char
  value : List Char
  /-- Are the zeros and underscores where they may be, if the value is a number? -/
  wellFormed : Bool

/-- Move the cut from one equals sign to the next until a value stands behind it. The pieces
are those between the equals signs. -/
def moveCut? (name : List (List Char)) (wellFormed : Bool) : List (List Char) → Option Cut
  | [] => none
  | piece :: rest =>
    let value := Text.joined ['='] (piece :: rest)
    let wellFormed := wellFormed && isWellFormed value
    if isValueLike value then some ⟨Text.joined ['='] name, value, wellFormed⟩
    else moveCut? (name ++ [piece]) wellFormed rest

/-- Cut a line between its name and its value. The underscores of a value behind its equals sign
are left out, unless nothing comes of it without them and no other equals sign follows. -/
def cutLine? (line : List Char) : Option Cut :=
  let pieces := Text.pieces ['='] line
  let count := min (1 + equalsBefore false (quotedParts line)) (pieces.length - 1)
  let name := Text.joined ['='] (pieces.take count)
  let value := Text.joined ['='] (pieces.drop count)
  let shown := numberBehindEquals value
  if isValueLike shown then some ⟨name, shown, isWellFormed value⟩
  else
    match pieces.drop count with
    | [] => none
    | [_] => if isValueLike value then some ⟨name, value, isWellFormed value⟩ else none
    | first :: rest => moveCut? (pieces.take count ++ [first]) (isWellFormed value) rest

/-- The names in a name with points. Those between quotes are taken as they are. -/
def partNames (quoted : Bool) : List (List Char) → List (List Char)
  | [] => []
  | part :: rest =>
    (if quoted then [part] else (Text.pieces ['.'] part).map Text.trim) ++ partNames (!quoted) rest

/-- The tables and the name in them that the name of a line leads to. Empty names are left out. -/
def path? (name : List Char) : Option (List String × String) :=
  if name.contains '.' then
    let names :=
      if name.contains '"' || name.contains '\'' then partNames false (quotedParts name)
      else Text.pieces ['.'] name
    match names.reverse.dropWhile List.isEmpty with
    | [] => none
    | last :: tables =>
      let tables := tables.reverse.filter fun name => !name.isEmpty
      some (tables.map String.ofList, String.ofList (Text.trim last))
  else if isQuoted name then do
    return ([], String.ofList (← Text.plain? (← unescape? ((inside name).map .scalar))))
  else if name.isEmpty then none
  else some ([], String.ofList name)

/-- The last piece of a list of texts that begins with a quote. -/
def lastText? : List Char → List (List Char) → Option (List Char)
  | piece, [] => some piece
  | piece, before :: rest =>
    if piece.isEmpty then none
    else if (openingQuote? piece).isSome then some piece
    else lastText? (before ++ ',' :: piece) rest

/-- The text at the end of a value that may go on in the next line. -/
def openText? (value : List Char) : Option (List Char) :=
  let isOpenList := value.head? = some '[' && (Text.trim value).getLast? ≠ some ']' &&
    (openingQuote? (Text.trim (inside value))).isSome
  if isOpenList then
    match (Text.pieces [','] (Text.trim (value.drop 1))).reverse with
    | [] => none
    | last :: before => lastText? last before
  else some value

/-- Does a value end in a block of text that goes on in the next line? -/
def isOpen? (value : List Char) : Option Bool :=
  if value.length < 3 then some false
  else do
    let text ← openText? value
    match openingQuote? text, text.drop 1 with
    | none, _ => some false
    | some _, [] => none
    | some quote, [second] => if second = quote then none else some false
    | some quote, second :: third :: _ =>
      let ends := text.reverse.take 3 = [quote, quote, quote]
      some (second = quote && third = quote && !(5 < text.length && ends))

/-- What came of an assignment: a table with the value in it, or one that waits for the end
of a block of text. `continued` says that the line end after the block so far is left out. -/
inductive Assigned where
  | settled (table : Settings)
  | begun (table : Settings) (name : String) (block : List Char) (continued : Bool)

/-- Change the table that some names lead to, which is made when it is missing. -/
def inTable? {α : Type} (change : Settings → Option (Settings × α)) :
    List String → Settings → Option (Settings × α)
  | [], table => change table
  | name :: rest, table =>
    match table.lookup name with
    | none => do
      let (inner, result) ← inTable? change rest []
      return (Settings.put name (.table inner) table, result)
    | some (.table inner) => do
      let (inner, result) ← inTable? change rest inner
      return (Settings.put name (.table inner) table, result)
    | some _ => none

/-- A block of text as it stands after its first line. -/
def beginBlock (value : List Char) : List Char × Bool :=
  if endsOdd value then (value.dropLast, true) else (value ++ ['\n'], false)

/-- The kind of a setting that the others in a list must have too. A day is of one kind with
and without a time. -/
def commonKind : Setting → String
  | .moment (.both date _ _) => (Moment.day date).kind
  | value => value.kind

def areAlike : List Setting → Bool
  | [] => true
  | first :: rest => rest.all fun other => commonKind other == commonKind first

/-- The day, the time or the number that a text spells. A text that holds too many digits where
those behind the seconds of a time would stand is none of these. -/
def readPlain? (wellFormed : Bool) (value : List Char) : Option Setting :=
  if beginsWithTime value then (readTime? value).map fun clock => .moment (.time clock)
  else if (tailOf value).micro?.isNone then none
  else match readMoment? value with
    | some moment => some (.moment moment)
    | none => if wellFormed then readNumber? value else none

mutual

/-- The value that a text spells. Lists and tables inside each other are read down to some depth, where a
list counts twice and a table between braces three times. -/
def readValue? (limit : Nat) (wellFormed : Bool) (value : List Char) : Option Setting :=
  match limit with
  | 0 => none
  | limit + 1 =>
    match value with
    | [] => none
    | ['t', 'r', 'u', 'e'] => some (.flag true)
    | ['f', 'a', 'l', 's', 'e'] => some (.flag false)
    | '"' :: _ => (readText? '"' value).map .ofPoints
    | '\'' :: _ => (readText? '\'' value).map .ofPoints
    | '[' :: _ => (readList? limit value).map .list
    | '\x7b' :: _ => (readTable? limit value []).map .table
    | _ => readPlain? wellFormed value

/-- The items of a list, which are all of one kind. -/
def readList? (limit : Nat) (list : List Char) : Option (List Setting) :=
  match limit with
  | 0 => none
  | limit + 1 => do
    let items ← (← items? list).mapM (readValue? limit true)
    if areAlike items then some items else none

/-- Carry out the assignments between two braces on a table. An open block of text ends them. -/
def readTable? (limit : Nat) (text : List Char) (table : Settings) : Option Settings :=
  match limit with
  | 0 => none
  | limit + 1 => do
    let outcome ← (← tableAssignments? text).foldlM (fun outcome line =>
      match outcome with
      | .settled table => assign? limit line table
      | .begun table name block continued => some (.begun table name block continued))
      (Assigned.settled table)
    match outcome with
    | .settled table => some table
    | .begun table _ _ _ => some table

/-- Carry out the assignment of a line on a table. A name must not be given twice. -/
def assign? (limit : Nat) (line : List Char) (table : Settings) : Option Assigned :=
  match limit with
  | 0 => none
  | limit + 1 => do
    let cut ← cutLine? line
    let value := Text.trim cut.value
    let (tables, name) ← path? (Text.trim cut.name)
    -- A value that goes on in the next line must not meet a name that is taken.
    if ← isOpen? value then
      let (block, continued) := beginBlock value
      let (table, _) ← inTable? (fun inner =>
        if name = "" || (inner.lookup name).isSome then none else some (inner, ())) tables table
      return .begun table name block continued
    else
      let value ← readValue? limit cut.wellFormed value
      let (table, _) ← inTable? (fun inner =>
        if (inner.lookup name).isSome then none else some (Settings.put name value inner, ())) tables table
      return .settled table

end

end KeyBindings.Toml
