/-!
# Pages of the legend

The legend is a grid of two rows. A row holds as many entries as are wanted and as fit, but
at least one. When there are more entries than slots, the last slot of every page but the
final one leads to the next page, so that pages overlap by one slot.
-/
namespace KeyBindings

/-- How many entries a row of the legend should hold. -/
structure LegendGrid where
  columns : Int
  columns_pos : 1 ≤ columns

namespace LegendGrid

/-- The cells of a key, and those of a label. -/
def keyCells : Nat := 3
def labelCells : Nat := 8

/-- The cells that an entry needs: its key, a blank and its label. -/
def entryCells : Int := keyCells + labelCells + 1

/-- The number of columns when no other is wanted. -/
def defaultColumns : Int := 6

/-- A grid with some number of columns, at least one. -/
def make (columns : Int) : LegendGrid := ⟨max 1 columns, by omega⟩

def perLine (grid : LegendGrid) (width : Int) : Int :=
  max 1 (min grid.columns (width / entryCells))

def pageSize (grid : LegendGrid) (width : Int) : Int := 2 * grid.perLine width

/-- By how many entries a page is ahead of the one before it. -/
def pageStep (grid : LegendGrid) (width : Int) : Int := max 1 (grid.pageSize width - 1)

/-- The number of the first entry on a page. -/
def pageBase (grid : LegendGrid) (page width : Int) : Int := page * grid.pageStep width

/-- How many pages some number of entries takes. -/
def pageCount (grid : LegendGrid) (count width : Int) : Int :=
  let size := grid.pageSize width
  let step := grid.pageStep width
  if count ≤ size then 1 else 1 + (count - size + (step - 1)) / step

end LegendGrid

end KeyBindings
