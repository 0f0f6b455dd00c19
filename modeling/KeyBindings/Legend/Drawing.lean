import KeyBindings.Journal.Record
import KeyBindings.Legend.Layout
import KeyBindings.Screen.Window

/-!
# Drawing the legend

The window is erased, then every cell writes its key and, when there is room, its label. A
write that the terminal refuses is passed over, one that fails otherwise is noted; either way
the cell is done and the next one begins.
-/
namespace KeyBindings.LegendGrid

/-- Write the key and the label of a cell, up to the first write that fails. -/
def drawCell (window : Window) (cell : LegendCell) : Window × Option WriteFault :=
  match window.write (.text cell.y cell.keyX cell.keyText true) with
  | (window, some fault) => (window, some fault)
  | (window, none) =>
    let room := window.width - cell.labelX
    if 0 < room then window.write (.text cell.y cell.labelX (Text.clipText cell.label room) false)
    else (window, none)

def cellRecords (cell : LegendCell) : Option WriteFault → List Journal.Record
  | some .unforeseen =>
    [⟨.error, Journal.root, "Unexpected error drawing legend cell " ++ cell.description⟩]
  | _ => []

def drawCells (window : Window) : List LegendCell → Window × List Journal.Record
  | [] => (window, [])
  | cell :: rest =>
    let (window, fault) := drawCell window cell
    let (window, records) := drawCells window rest
    (window, cellRecords cell fault ++ records)

structure Drawn where
  window : Window
  cells : List LegendCell
  records : List Journal.Record

def draw (grid : LegendGrid) (table : Table) (window : Window) (entries : List LegendEntry)
    (page : Int) : Drawn :=
  let cells := grid.layout table entries page window.width
  let (drawn, records) := drawCells (window.call .erase) cells
  ⟨drawn.call .refreshLater, cells, records⟩

end KeyBindings.LegendGrid
