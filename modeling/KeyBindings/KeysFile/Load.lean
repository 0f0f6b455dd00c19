import KeyBindings.Binding.Defaults
import KeyBindings.Files.Fault
import KeyBindings.KeysFile.Format
import KeyBindings.Text.Pieces

/-!
# Loading a keys file

Loading is forgiving: a line or key that is refused is put into the report and loading goes
on. A senseless name becomes a key that cannot be pressed. Only a name that begins with a surrogate
stands for no key code.
-/
namespace KeyBindings.KeysFile

/-- What is wrong with a line, or with one key on it. -/
inductive LineFault where
  | unknownAction (label : Text.Points)
  | noKeys (label : Text.Points)
  | refused (reason : AssignError)
  deriving DecidableEq, Repr

def LineFault.message : LineFault → String
  | .unknownAction label => "unknown action " ++ Text.quotedPoints label
  | .noKeys label => "no keys given for " ++ Text.quotedPoints label
  | .refused reason => reason.message

/-- What is wrong with a keys file. -/
inductive Problem where
  | line (number : Nat) (fault : LineFault)
  | unreadable (fault : FileFault)
  deriving DecidableEq, Repr

def Problem.message : Problem → String
  | .line number fault => s!"line {number}: {fault.message}"
  | .unreadable fault => s!"{fault.path}: {fault.message}"

/-- What came of loading a keys file: how many keys were bound, which actions the file leaves
without keys, what was refused, how many actions got their default keys afterwards, and
whether the file could be read. -/
structure Report where
  assigned : Nat := 0
  undefined : List Action := []
  problems : List Problem := []
  filled : Nat := 0
  fileRead : Bool := true
  deriving DecidableEq, Repr

def Report.ok (report : Report) : Bool := report.problems.isEmpty

/-- A table in the course of loading, and the report so far. -/
structure Loading where
  table : Table
  report : Report

namespace Loading

def refuse (loading : Loading) (number : Nat) (fault : LineFault) : Loading :=
  { loading with report.problems := loading.report.problems ++ [.line number fault] }

/-- Bind one key that a line names. -/
def bindName (loading : Loading) (number : Nat) (action : Action) (name : Text.Points) : Loading :=
  match loading.table.assign (loading.table.keyboard.codeOfPoints name) action with
  | .ok table => { loading with table, report.assigned := loading.report.assigned + 1 }
  | .error reason => loading.refuse number (.refused reason)

def readLine (loading : Loading) (number : Nat) (line : Text.Points) : Loading :=
  match parseLine? line with
  | none => loading
  | some (label, names) =>
    match actionOf? label with
    | none => loading.refuse number (.unknownAction label)
    | some action =>
      if names.isEmpty then loading.refuse number (.noKeys label)
      else if names = [Text.points Table.undefinedMark] then
        { loading with
          table := loading.table.markUndefined action
          report.undefined := loading.report.undefined ++ [action] }
      else names.foldl (fun loading name => loading.bindName number action name) loading

/-- Carry out lines that are numbered on from some number. -/
def readLines (loading : Loading) : Nat → List Text.Points → Loading
  | _, [] => loading
  | number, line :: rest => (loading.readLine number line).readLines (number + 1) rest

end Loading

/-- Bind the keys that some lines list. -/
def load (table : Table) (lines : List Text.Points) : Loading :=
  (Loading.mk table {}).readLines 1 lines

def linesOf (characters : List Char) : List Text.Points :=
  (Text.linesOf characters).map (·.map .scalar)

def textLines (text : String) : List Text.Points := linesOf text.toList

/-- Bind the keys that a text lists. -/
def loadText (table : Table) (text : String) : Loading := load table (textLines text)

/-- What is noted about a load: every problem. -/
def loadRecords (report : Report) : List Journal.Record :=
  report.problems.map fun problem =>
    ⟨.warning, Journal.program, "Keys file: " ++ problem.message⟩

end KeyBindings.KeysFile
