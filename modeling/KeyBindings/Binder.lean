import KeyBindings.Command
import KeyBindings.KeysFile.Storage
import KeyBindings.Legend.Drawing
import KeyBindings.Setting.Sources

/-!
# Binders

A binder is what an application holds of its key bindings: the table, the place of the keys
file and the grid of the legend. Loading a binder leaves a keys file behind in which no
action is missing, so that the next start finds what this one had.
-/
namespace KeyBindings

structure Binder where
  table : Table
  keysFile : Path
  grid : LegendGrid

/-- A key, by its name or by its code. -/
inductive KeySpec where
  | name (text : String)
  | code (value : Int)
  deriving DecidableEq, Repr

/-- Why a binder could not be loaded. -/
inductive BinderFault where
  | file (fault : FileFault)
  | store (fault : KeysFile.StoreError)
  | load (fault : KeysFile.LoadError)
  deriving DecidableEq, Repr

namespace Binder

/-- Make the binder that some settings describe. Settings that say nothing leave everything
as usual. -/
def make (host : Host) (settings : Setting) (keyboard : Keyboard) : Except ConfigFault Binder := do
  let settings ← (if settings.isSet then settings.asTable else .ok []).mapError .setting
  let keys ← (settings.inSection "keys").mapError .setting
  let columns ←
    (keys.get "cmds_per_line" (.whole LegendGrid.defaultColumns)).asNumber.mapError .setting
  let keysFile ← Config.keysFile host settings
  return ⟨Table.fresh keyboard, keysFile, LegendGrid.make columns⟩

def limits (binder : Binder) : Limits := binder.table.limits

def codeOf (binder : Binder) : KeySpec → Int
  | .name text => binder.table.keyboard.codeOf text
  | .code value => value

def assign (binder : Binder) (key : KeySpec) (action : Action) : Except AssignError Binder :=
  (binder.table.assign (binder.codeOf key) action).map fun table => { binder with table }

def remove (binder : Binder) (key : KeySpec) (action : Action) : Binder :=
  { binder with table := binder.table.remove (binder.codeOf key) action }

def lookup (binder : Binder) (key : KeySpec) : Option Action :=
  binder.table.lookup (binder.codeOf key)

/-- What an action does, and its keys. -/
def describe (binder : Binder) (action : Action) : String :=
  let keys := ((binder.table.allKeys action).toList.reverse.dropWhile (· = ' ')).reverse
  let shown := if keys.isEmpty then "(none)" else String.ofList keys
  s!"{action.label}: {action.info.help} Keys: {shown}"

def readCommand (binder : Binder) (full : Bool) (script : Script) : Command.Reading :=
  Command.read binder.limits binder.table.lookup full script

/-- The file that a text names. An empty one stands for the keys file of the settings. -/
def fileOf (binder : Binder) (text : String) : Path :=
  if text = "" then binder.keysFile else Path.ofText text

structure Loaded where
  binder : Binder
  host : Host
  records : List Journal.Record
  result : Except BinderFault KeysFile.Report

/-- Make a file with the default keys when it is not there. -/
def provide (host : Host) (path : Path) : KeysFile.Outcome BinderFault Unit :=
  match host.tree.isThere host.here path with
  | .error kind => ⟨host, [], .error (.file ⟨kind, path.text, none⟩)⟩
  | .ok true => ⟨host, [], .ok ()⟩
  | .ok false =>
    let note := s!"No keys file at {path.text}; creating it from the defaults."
    let stored := KeysFile.storeDefaults host path
    ⟨stored.host, ⟨.info, Journal.root, note⟩ :: stored.records, stored.result.mapError .store⟩

/-- Write a file again when default keys had to be added to what it says. -/
def repair (host : Host) (path : Path) (table : Table) (report : KeysFile.Report) :
    KeysFile.Outcome KeysFile.StoreError Unit :=
  if 0 < report.filled && report.fileRead then KeysFile.save host path table
  else ⟨host, [], .ok ()⟩

/-- What is noted when actions are without a key on purpose. -/
def undefinedRecords (table : Table) : List Journal.Record :=
  match table.undefinedActions with
  | [] => []
  | actions =>
    let labels := ", ".intercalate (actions.map Action.label)
    [⟨.info, Journal.root, s!"Some actions have no key: {labels}"⟩]

/-- Load the keys of a file into a binder. The file is made when it is not there, and
completed when actions are missing from it. -/
def load (binder : Binder) (host : Host) (path : Path) : Loaded :=
  let binder := { binder with table := binder.table.reset }
  let provided := provide host path
  match provided.result with
  | .error fault => ⟨binder, provided.host, provided.records, .error fault⟩
  | .ok () =>
    let loaded := KeysFile.loadFile provided.host path binder.table
    let binder := { binder with table := loaded.table }
    let records := provided.records ++ loaded.records
    match loaded.result with
    | .error fault => ⟨binder, provided.host, records, .error (.load fault)⟩
    | .ok report =>
      -- Filled keys are written back, so that the next load finds a complete file.
      let repaired := repair provided.host path loaded.table report
      match repaired.result with
      | .error fault =>
        ⟨binder, repaired.host, records ++ repaired.records, .error (.store fault)⟩
      | .ok () =>
        ⟨binder, repaired.host, records ++ repaired.records ++ undefinedRecords loaded.table,
          .ok report⟩

def save (binder : Binder) (host : Host) (path : Path) : KeysFile.Outcome KeysFile.StoreError Unit :=
  KeysFile.save host path binder.table

/-- How many pages the legend has for some entries in a window. -/
def legendPages (binder : Binder) (entries : List LegendEntry) (window : Window) : Int :=
  binder.grid.pageCount entries.length window.width

/-- Draw a page of the legend into a window. -/
def drawLegend (binder : Binder) (window : Window) (entries : List LegendEntry) (page : Int) :
    LegendGrid.Drawn :=
  binder.grid.draw binder.table window entries page

end Binder

end KeyBindings
