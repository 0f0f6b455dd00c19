import KeyBindings.CommandLine.Options
import KeyBindings.Host
import KeyBindings.Text.Integer
import KeyBindings.Text.Layout

/-!
# Help

The help shows how the program is called and what its options do. It is laid out for the
columns of the terminal, which the environment may tell: what does not fit on a line goes on
in the next one, behind a margin.
-/
namespace KeyBindings.CommandLine

/-! ## The width of a page -/

/-- The columns of a terminal that says nothing about them. -/
def usualColumns : Int := 80

/-- How many columns the terminal has. -/
def columnsOf (host : Host) : Int :=
  match (host.valueOf? "COLUMNS").map Text.readInteger with
  | some (.ok columns) => if 0 < columns then columns else usualColumns
  | _ => usualColumns

/-- The columns that text may fill. Two are kept free. -/
def pageWidth (columns : Int) : Int := columns - 2

/-- The columns that a block of text has when there is hardly any room. -/
def leastWidth : Int := 11

/-- Blanks at the start of a line. -/
def margin (width : Int) : String := String.ofList (List.replicate width.toNat ' ')

/-! ## How the program is called -/

def programName : String := "vkeys"

/-- Stands before the line that shows how the program is called. -/
def usageMark : String := "usage: "

/-- An option in one spelling, with what its argument stands for. -/
def Choice.form (choice : Choice) (spelling : String) : String :=
  if choice.takesArgument then spelling ++ " PATH" else spelling

def Choice.usage (choice : Choice) : String := choice.form (choice.spellings.headD "")

/-- The options between brackets. Those that exclude each other share theirs. -/
def usageParts : List String :=
  let (modes, others) := Choice.all.partition Choice.isMode
  (others.map fun choice => "[" ++ choice.usage ++ "]") ++
  ["[" ++ " | ".intercalate (modes.map Choice.usage) ++ "]"]

/-- Put parts on lines, from a line of which `used` columns are taken up with its parts so far. A
part that does not fit begins a new line, behind a margin. -/
def partLines (width indent used : Int) (line : List String) : List String → List (List String)
  | [] => if line.isEmpty then [] else [line]
  | part :: rest =>
    if width < used + 1 + part.length && !line.isEmpty then
      line :: partLines width indent (indent + part.length) [part] rest
    else partLines width indent (used + 1 + part.length) (line ++ [part]) rest

/-- Lines of parts as a text. -/
def showLines (indent : Int) (lines : List (List String)) : String :=
  ("\n" ++ margin indent).intercalate (lines.map fun line => " ".intercalate line)

/-- How the program is called. The options stand behind its name, or below it when the name
takes more than three quarters of a line. -/
def usageText (columns : Int) : String :=
  let width := pageWidth columns
  let start : Int := usageMark.length
  let behind : Int := start + programName.length + 1
  let whole := usageMark ++ " ".intercalate (programName :: usageParts)
  if whole.length ≤ width then whole ++ "\n"
  else if 4 * (behind - 1) ≤ 3 * width then
    let lines := partLines width behind (start - 1) [] (programName :: usageParts)
    usageMark ++ showLines behind lines ++ "\n"
  else
    let lines := partLines width start (start - 1) [] usageParts
    usageMark ++ programName ++ "\n" ++ margin start ++ showLines start lines ++ "\n"

/-! ## What the options do -/

def description : String := "Configurable key bindings for curses applications."

def Choice.purpose : Choice → String
  | .help => "show this help message and exit"
  | .version => "show program's version number and exit"
  | .dumpDefaults => "write the default keys file to PATH and exit"
  | .check => "validate the keys file at PATH and exit"
  | .debugKeys => "show raw key codes and their bindings (ESC exits)"

/-- All spellings of an option. -/
def Choice.invocation (choice : Choice) : String :=
  ", ".intercalate (choice.spellings.map choice.form)

/-- The columns before an option, and those that stay free behind it. -/
def gap : Nat := 2

/-- Where the purposes of the options begin: behind the longest option, unless the page is too
narrow. -/
def purposeColumn (columns : Int) : Int :=
  let longest := (Choice.all.map fun choice => choice.invocation.length).foldl max 0
  min (gap + longest + gap : Nat) (max (2 * gap) (pageWidth columns - 20))

/-- An option and its purpose. A long option stands on a line of its own. -/
def Choice.helpText (columns : Int) (choice : Choice) : String :=
  let column := purposeColumn columns
  let width := max leastWidth (pageWidth columns - column)
  let lines := Text.wrap width.toNat choice.purpose
  let start := margin gap ++ choice.invocation
  let shown := ("\n" ++ margin column).intercalate lines
  if start.length + gap ≤ column then Text.padRight column.toNat start ++ shown ++ "\n"
  else start ++ "\n" ++ margin column ++ shown ++ "\n"

def helpText (columns : Int) : String :=
  let lines := Text.wrap (max leastWidth (pageWidth columns)).toNat description
  usageText columns ++ "\n" ++ "\n".intercalate lines ++ "\n\n" ++ "options:\n" ++
  String.join (Choice.all.map fun choice => choice.helpText columns)

/-- What is shown with an error. -/
def errorText (columns : Int) (error : UsageError) : String :=
  usageText columns ++ programName ++ ": error: " ++ error.message ++ "\n"

def versionText : String := programName ++ " 0.1.0\n"

end KeyBindings.CommandLine
