import KeyBindings.KeysFile.Load

/-!
# Edits of a table

All the ways in which a table changes, as data. An edit that is refused leaves the table as it
is, except that default keys and lines of a keys file take effect up to what is refused.
-/
namespace KeyBindings

inductive Edit where
  | assign (code : Int) (action : Action)
  | remove (code : Int) (action : Action)
  | markUndefined (action : Action)
  | reset
  | fillMissing
  | load (lines : List Text.Points)
  deriving DecidableEq, Repr

namespace Table

def edit (table : Table) : Edit → Table
  | .assign code action => (table.assign code action).toOption.getD table
  | .remove code action => table.remove code action
  | .markUndefined action => table.markUndefined action
  | .reset => table.reset
  | .fillMissing => table.fillMissing.1
  | .load lines => (KeysFile.load table lines).table

def editAll (table : Table) (edits : List Edit) : Table := edits.foldl edit table

/-- Does a table come of a fresh one by edits? -/
def IsReachable (table : Table) : Prop :=
  ∃ edits, table = (fresh table.keyboard).editAll edits

end Table

end KeyBindings
