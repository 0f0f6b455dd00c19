import KeyBindings.Binding.Table
import KeyBindings.Text.CodePoint
import KeyBindings.Text.Pieces

/-!
# The format of the keys file

The keys file has one action to a line: its label, then the names of its keys, or a mark
when it was unbound on purpose. Blanks separate the fields, empty lines and lines that start
with `#` say nothing. An action without a line never had a key.
-/
namespace KeyBindings.KeysFile

/-- The comment at the head of a keys file. -/
def header : String :=
  "#\n" ++
  "# vkeys keys configuration file\n" ++
  "#\n" ++
  "# In this file the keybindings used by vkeys are defined.\n" ++
  "# It is generated automatically by vkeys and is maintained\n" ++
  "# via the key configuration menu of the interactive user\n" ++
  "# interface. It should not be edited directly.\n" ++
  "\n"

def renderLine (label value : String) : String := label ++ "  " ++ value ++ "\n"

/-- A keys file with the default keys of every action. -/
def renderDefaults : String :=
  header ++ String.join (Action.all.map fun action => renderLine action.label action.defaultBinding)

/-- The keys file of a table. Missing actions have no line in it. -/
def render (table : Table) : String :=
  let written := Action.all.filter fun action => !table.isMissing action
  header ++ String.join (written.map fun action => renderLine action.label (table.allKeys action))

/-- The label and the names on a line, if it says anything. -/
def parseLine? (line : Text.Points) : Option (Text.Points × List Text.Points) :=
  match Text.fieldsWhere Text.CodePoint.isAsciiBlank line with
  | [] => none
  | label :: names => if label.head? = some (.scalar '#') then none else some (label, names)

/-- The action that a label stands for. No label has a surrogate in it. -/
def actionOf? (label : Text.Points) : Option Action := (Text.string? label).bind Action.ofLabel?

end KeyBindings.KeysFile
