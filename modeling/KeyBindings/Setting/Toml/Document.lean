import KeyBindings.Setting.Toml.Header
import KeyBindings.Setting.Toml.Lines

/-!
# Documents

The settings file is a document of headers and assignments, one to a line. A line that is
neither is passed over. A document with anything in it that cannot be read, or with a name
given twice, is refused as a whole.
-/
namespace KeyBindings.Toml

/-- A block of text that goes on in the next line, and the name that it is for. `continued` says
that the next line follows without a line end. -/
structure Block where
  name : String
  text : List Char
  continued : Bool

/-- A document in the course of its second reading: how deep values may lie in it, the settings, the
way to the table that is open, the names of the tables that were made on the way to others, and an
open block. -/
structure Document where
  limit : Nat
  settings : Setting := .table []
  way : List Step := []
  implied : List String := []
  block : Option Block := none

namespace Document

/-- Change the table that is open. -/
def change? {α : Type} (document : Document) (change : Settings → Option (Settings × α)) :
    Option (Document × α) := do
  let (settings, result) ← atWay? change document.way document.settings
  return ({ document with settings }, result)

/-- Does a line close the block of text that begins so? -/
def closes? (text line : List Char) : Option Bool :=
  match text with
  | '[' :: _ => line.getLast?.map (· = ']')
  | quote :: _ => some (line.reverse.take 3 = [quote, quote, quote])
  | [] => none

/-- Go on with a block of text. -/
def readBlockLine? (document : Document) (block : Block) (line : List Char) : Option Document := do
  let text := block.text ++ line
  if ← closes? text line then
    let value ← readValue? document.limit true text
    let (document, _) ← document.change? fun table => some (Settings.put block.name value table, ())
    return { document with block := none }
  else
    let (text, continued) := beginBlock text
    return { document with block := some { block with text, continued } }

/-- Open the table of a header. -/
def readHeader? (document : Document) (line : List Char) : Option Document := do
  let header ← header? line
  let opened ← open? header.addsTable document.implied header.names document.settings
  return { document with settings := opened.value, way := opened.way, implied := opened.implied }

/-- Carry out the assignments of a line in braces on the table that is open. -/
def readBraces? (document : Document) (line : List Char) : Option Document :=
  if line.getLast? ≠ some '\x7d' then none
  else do
    let (document, _) ← document.change? fun table => do
      return (← readTable? document.limit line table, ())
    return document

def readAssignment? (document : Document) (line : List Char) : Option Document := do
  let (document, block) ← document.change? fun table => do
    match ← assign? document.limit line table with
    | .settled table => return (table, none)
    | .begun table name text continued => return (table, some ⟨name, text, continued⟩)
  return { document with block }

/-- Read a line outside a block of text. -/
def readPlainLine? (document : Document) (line : List Char) : Option Document :=
  match line with
  | [] => some document
  | '[' :: _ => document.readHeader? line
  | '\x7b' :: _ => document.readBraces? line
  | _ => if line.contains '=' then document.readAssignment? line else some document

/-- Read a line. The blanks at its ends count only inside a block of text, behind its first
line end. -/
def readLine? (document : Document) (line : List Char) : Option Document :=
  match document.block with
  | none => document.readPlainLine? (Text.trim line)
  | some block =>
    let line := if block.continued || !block.text.contains '\n' then Text.trim line else line
    if line.isEmpty && block.continued then some document else document.readBlockLine? block line

end Document

/-- The settings of a document, whose own line ends are line feeds. -/
def read? (limit : Nat) (text : List Char) : Option Settings := do
  let document ← (← lines? text).foldlM Document.readLine? { limit }
  match document.settings with
  | .table settings => some settings
  | _ => none

end KeyBindings.Toml
