import KeyBindings.Setting.Toml.Value

/-!
# Headers

A header names the table that the following lines belong to, between brackets, or between
double brackets a list of tables to which it adds one. A table may have only one header of
its own. One that was made on the way to another may get its header later, which is found out
by its last name alone.
-/
namespace KeyBindings.Toml

structure Header where
  names : List String
  /-- Does the header add a table to a list? -/
  addsTable : Bool

/-- May the character stand in a bare name of a header? -/
def isBareNameChar (c : Char) : Bool := c.isAlphanum || c = '_' || c = '-'

/-- The names in a header, from the pieces between its points. A name between quotes goes on to
the piece that ends with its quote. -/
def headerNames? : Option (List Char) → List (List Char) → Option (List String)
  | none, [] => some []
  | some _, [] => none
  | begun, piece :: rest =>
    let raw := (begun.map fun start => start ++ '.' :: piece).getD (Text.trim piece)
    let name := Text.trim raw
    if (openingQuote? name).isSome then
      if name.length ≠ 1 && isQuoted name then
        (headerNames? none rest).map (String.ofList (inside name) :: ·)
      else headerNames? (some raw) rest
    else if !name.isEmpty && name.all isBareNameChar then
      (headerNames? none rest).map (String.ofList name :: ·)
    else none

/-- The closing marks in the parts of a header up to the first one outside quotes. -/
def marksBefore (mark : List Char) (quoted : Bool) : List (List Char) → Nat
  | [] => 0
  | part :: rest =>
    if !quoted && Text.holds mark part then 0
    else Text.countOf mark part + marksBefore mark (!quoted) rest

/-- Read a header. Nothing may follow its closing brackets. -/
def header? (line : List Char) : Option Header := do
  let (addsTable, mark, text) ← match line with
    | '[' :: '[' :: text => some (true, [']', ']'], text)
    | '[' :: c :: text => some (false, [']'], c :: text)
    | _ => none
  let count := 1 + marksBefore mark false (quotedParts text)
  let pieces := Text.pieces mark text
  let behind := Text.joined mark (pieces.drop count)
  if pieces.length ≤ count || !(Text.trim behind).isEmpty then none
  else
    let names ← headerNames? none (Text.pieces ['.'] (Text.joined mark (pieces.take count)))
    if names.contains "" then none else some ⟨names, addsTable⟩

/-- A step down to a table: to the setting with a name, or to the last one of a list. -/
inductive Step where
  | name (name : String)
  | last
  deriving DecidableEq, Repr

/-- A table that a header has opened: the settings with the table in them, the way to it, and
the names of tables that were made on the way to others. -/
structure Opened where
  value : Setting
  way : List Step := []
  implied : List String

/-- What a header puts where nothing is: a table, or a list of one table. -/
def newTable (isLast addsTable : Bool) : Setting :=
  if isLast && addsTable then .list [.table []] else .table []

/-- Meet the last name of a header where there is something already. A table that was made on
the way to another is opened now; a list gets one more table. -/
def openAgain? (addsTable : Bool) (implied : List String) (name : String) (old : Setting) :
    Option (Setting × List String) :=
  if implied.contains name then if addsTable then none else some (old, implied.erase name)
  else match addsTable, old with
    | true, .list items => some (.list (items ++ [.table []]), implied)
    | _, _ => none

/-- Go down into a setting with `next`: into the last table of a list, if the header adds one. -/
def goDown? (addsTable : Bool) (next : Setting → Option Opened) (value : Setting) : Option Opened :=
  match addsTable, value with
  | false, value => next value
  | true, .table entries => next (.table entries)
  | true, .list items =>
    match items.getLast? with
    | none => none
    | some last => do
      let opened ← next last
      return { opened with value := .list (items.dropLast ++ [opened.value]), way := .last :: opened.way }
  | true, _ => none

/-- Open the table that a header names, from a setting on the way to it. -/
def open? (addsTable : Bool) (implied : List String) : List String → Setting → Option Opened
  | [], value => some { value, implied }
  | name :: rest, .table entries => do
    -- A table that is named on the way to another one may be opened once more.
    let (inner, implied) ←
      match entries.lookup name with
      | none => some (newTable rest.isEmpty addsTable, if rest.isEmpty then implied else implied ++ [name])
      | some old => if rest.isEmpty then openAgain? addsTable implied name old else some (old, implied)
    let opened ← goDown? addsTable (open? addsTable implied rest) inner
    return { opened with
      value := .table (Settings.put name opened.value entries), way := .name name :: opened.way }
  -- In a list of tables the last one is meant.
  | name :: rest, .list items =>
    match items.getLast? with
    | some (.table entries) => do
      let inner := (entries.lookup name).getD (newTable rest.isEmpty addsTable)
      let opened ← goDown? addsTable (open? addsTable implied rest) inner
      let last := Setting.table (Settings.put name opened.value entries)
      return { opened with
        value := .list (items.dropLast ++ [last]), way := .last :: .name name :: opened.way }
    | _ => none
  | _ :: _, _ => none

/-- Change the table at the end of a way. -/
def atWay? {α : Type} (change : Settings → Option (Settings × α)) :
    List Step → Setting → Option (Setting × α)
  | [], .table entries => (change entries).map fun (entries, result) => (.table entries, result)
  | .name name :: rest, .table entries => do
    let (inner, result) ← atWay? change rest (← entries.lookup name)
    return (.table (Settings.put name inner entries), result)
  | .last :: rest, .list items => do
    let (last, result) ← atWay? change rest (← items.getLast?)
    return (.list (items.dropLast ++ [last]), result)
  | _, _ => none

end KeyBindings.Toml
