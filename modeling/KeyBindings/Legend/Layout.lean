import KeyBindings.Legend.Entry
import KeyBindings.Legend.Paging
import KeyBindings.Text.CellWidth

/-!
# The layout of a legend page

The entries of a page go into the grid column by column. The columns share the width of the
window evenly. A key is clipped to its three cells and stands at their right end, a label
follows it after a blank.
-/
namespace KeyBindings

/-- An entry at its place in the legend. -/
structure LegendCell where
  entry : LegendEntry
  y : Int
  keyX : Int
  keyText : String
  labelX : Int
  label : String
  deriving DecidableEq, Repr

/-- A cell as the journal shows it. -/
def LegendCell.description (cell : LegendCell) : String :=
  let key := Text.quoted cell.keyText
  let label := Text.quoted cell.label
  s!"LegendCell(entry={cell.entry.description}, y={cell.y}, key_x={cell.keyX}, " ++
    s!"key_text={key}, label_x={cell.labelX}, label={label})"

namespace LegendGrid

def slotCount (grid : LegendGrid) (count page width : Int) : Int :=
  min (grid.pageSize width) (count - grid.pageBase page width)

/-- The entries shown on a page. The last slot of a page that is not the final one leads on. -/
def pageEntries (grid : LegendGrid) (entries : List LegendEntry) (page width : Int) :
    List LegendEntry :=
  let base := grid.pageBase page width
  let size := grid.slotCount entries.length page width
  if page < 0 || size ≤ 0 then []
  else
    let shown := (entries.drop base.toNat).take size.toNat
    if base + size = entries.length then shown
    else shown.dropLast ++ [.action .otherCommands]

/-- The cell of an entry in one slot of the grid, given how far the columns are apart. -/
def cellAt (table : Table) (pitch : Int) (entry : LegendEntry) (slot : Nat) : LegendCell :=
  let column : Int := (slot / 2 : Nat) * pitch
  let key := Text.clipText (entry.keyText table) keyCells
  { entry
    y := (slot % 2 : Nat)
    keyX := column + (keyCells - Text.displayWidth key)
    keyText := key
    labelX := column + keyCells + 1
    label := entry.title }

/-- Lay out a page of the legend in a window of some width. -/
def layout (grid : LegendGrid) (table : Table) (entries : List LegendEntry) (page width : Int) :
    List LegendCell :=
  let pitch := width * 2 / grid.slotCount entries.length page width
  (grid.pageEntries entries page width).zipIdx.map fun (entry, slot) => cellAt table pitch entry slot

end LegendGrid

end KeyBindings
