import KeyBindings.Legend.Drawing
import Mathlib.Data.List.Basic

/-!
# Writes of a legend that fail

All cells count their write attempts together, and a key that fails saves the attempt of its label. So
a failure moves the numbers of all attempts behind it, but it moves nothing else: what a cell writes,
and what is noted about it, depends on its own attempts alone.
-/
namespace KeyBindings.LegendGrid

variable (window : Window) (cell : LegendCell) (attempt : Nat)

/-! ### One cell -/

/-- The label of a cell is attempted when its key was written and there is room for it. -/
def LabelAttempted : Prop := window.fault attempt = none ∧ cell.labelX < window.width

instance : Decidable (LabelAttempted window cell attempt) :=
  inferInstanceAs (Decidable (_ ∧ _))

/-- What a cell writes, when its key has some number among the attempts and its label the next one. -/
def cellCalls : List Call :=
  (if window.fault attempt = none then [.text cell.y cell.keyX cell.keyText true] else []) ++
    if LabelAttempted window cell attempt ∧ window.fault (attempt + 1) = none then
      [.text cell.y cell.labelX (Text.clipText cell.label (window.width - cell.labelX)) false]
    else []

/-- How a cell failed: at its key or, when that was attempted, at its label. -/
def cellFault : Option WriteFault :=
  if LabelAttempted window cell attempt then window.fault (attempt + 1) else window.fault attempt

/-- The number of the first attempt behind a cell. -/
def nextAttempt : Nat := attempt + if LabelAttempted window cell attempt then 2 else 1

theorem drawCell_eq :
    drawCell window cell =
      ({ window with
          attempts := nextAttempt window cell window.attempts
          calls := window.calls ++ cellCalls window cell window.attempts },
        cellFault window cell window.attempts) := by
  unfold drawCell Window.write
  -- A key that cannot be written ends the cell before its label is tried.
  cases key : window.fault window.attempts with
  | some fault => simp [cellCalls, cellFault, nextAttempt, LabelAttempted, key]
  | none =>
    by_cases room : cell.labelX < window.width
    case neg =>
      simp [cellCalls, cellFault, nextAttempt, LabelAttempted, key, room, Window.call]
    case pos =>
      cases label : window.fault (window.attempts + 1) with
      | some fault =>
        simp [cellCalls, cellFault, nextAttempt, LabelAttempted, key, label, room, Window.call]
      | none =>
        simp [cellCalls, cellFault, nextAttempt, LabelAttempted, key, label, room, Window.call]

/-! ### All cells -/

variable (cells : List LegendCell) (first : Nat → Nat)

/-- Among the write attempts of all cells, those of each slot begin with the number that is given for it. -/
def CountsAttempts : Prop :=
  first 0 = window.attempts ∧
    ∀ slot cell, cells[slot]? = some cell → first (slot + 1) = nextAttempt window cell (first slot)

theorem exists_countsAttempts : ∃ first, CountsAttempts window cells first := by
  refine ⟨fun slot => (cells.take slot).foldl (fun attempt cell => nextAttempt window cell attempt)
    window.attempts, by simp, ?_⟩
  intro slot cell found
  have longer : cells.take (slot + 1) = cells.take slot ++ [cell] := by
    rw [List.take_add_one, found, Option.toList_some]
  simp only [longer, List.foldl_append, List.foldl_cons, List.foldl_nil]

/-- The cells are drawn one by one: each writes what its own attempts let it write. -/
theorem drawCells_eq (counts : CountsAttempts window cells first) :
    drawCells window cells =
      ({ window with
          attempts := first cells.length
          calls := window.calls ++
            cells.zipIdx.flatMap fun place => cellCalls window place.1 (first place.2) },
        cells.zipIdx.flatMap fun place =>
          cellRecords place.1 (cellFault window place.1 (first place.2))) := by
  induction cells generalizing window first with
  | nil =>
    obtain ⟨start, -⟩ := counts
    simp [drawCells, start]
  | cons cell rest ih =>
    obtain ⟨start, next⟩ := counts
    -- The window behind the first cell fails at the same attempts, only its counter has moved on.
    have tail := ih
      { window with
        attempts := nextAttempt window cell window.attempts
        calls := window.calls ++ cellCalls window cell window.attempts }
      (fun slot => first (slot + 1))
      ⟨by simpa [start] using next 0 cell rfl,
        fun slot later found => next (slot + 1) later (by simpa using found)⟩
    rw [drawCells, drawCell_eq]
    simp only [tail, List.zipIdx_cons', List.flatMap_cons, List.flatMap_map, List.length_cons, start,
      List.append_assoc]
    rfl

/-- What a cell writes into a window of some width when nothing fails: its key and, when there is room
for it, its label. -/
def wholeCalls (width : Int) (cell : LegendCell) : List Call :=
  .text cell.y cell.keyX cell.keyText true ::
    if cell.labelX < width then
      [.text cell.y cell.labelX (Text.clipText cell.label (width - cell.labelX)) false]
    else []

theorem cellCalls_eq (sound : ∀ attempt, window.fault attempt = none) :
    cellCalls window cell attempt = wholeCalls window.width cell := by
  simp [cellCalls, wholeCalls, LabelAttempted, sound]

/-- Where no write fails the cells of a page are written whole, one after the other. -/
theorem draw_window (grid : LegendGrid) (table : Table) (entries : List LegendEntry) (page : Int)
    (sound : ∀ attempt, window.fault attempt = none) :
    ∃ attempts, (grid.draw table window entries page).window =
      { window with
        attempts
        calls := window.calls ++ [.erase] ++
          (grid.layout table entries page window.width).flatMap (wholeCalls window.width) ++
            [.refreshLater] } := by
  let cells := grid.layout table entries page window.width
  obtain ⟨first, numbers⟩ := exists_countsAttempts (window.call .erase) cells
  have whole := drawCells_eq (window.call .erase) cells first numbers
  -- A cell that nothing fails for writes the same at every number.
  have written := calc
    (cells.zipIdx.flatMap fun place => cellCalls (window.call .erase) place.1 (first place.2))
    _ = cells.zipIdx.flatMap fun place => wholeCalls window.width place.1 :=
      List.flatMap_congr fun place _ => cellCalls_eq (window.call .erase) place.1 _ sound
    _ = (cells.zipIdx.map Prod.fst).flatMap (wholeCalls window.width) := (List.flatMap_map ..).symm
    _ = cells.flatMap (wholeCalls window.width) := by rw [List.zipIdx_map_fst]
  refine ⟨first cells.length, ?_⟩
  simp only [draw, show grid.layout table entries page window.width = cells from rfl, whole, written]
  rfl

theorem cellRecords_eq (fault : Option WriteFault) :
    cellRecords cell fault = if fault = some .unforeseen then
      [⟨.error, Journal.root, "Unexpected error drawing legend cell " ++ cell.description⟩] else [] := by
  cases fault with
  | none => rfl
  | some fault => cases fault <;> rfl

/-- The legend is erased, then drawn cell by cell, and refreshed once behind the last cell. The key of
a cell is written when its own attempt does not fail, and the label when it is attempted and that
attempt does not fail; a cell whose failure was unforeseen is noted once. All this hangs on the two
attempts of the cell: those of other cells only move their numbers. -/
theorem draw_isolated (grid : LegendGrid) (table : Table) (window : Window)
    (entries : List LegendEntry) (page : Int) :
    let cells := grid.layout table entries page window.width
    let drawn := grid.draw table window entries page
    drawn.cells = cells ∧
    ∃ first : Nat → Nat, first 0 = window.attempts ∧
      (∀ slot cell, cells[slot]? = some cell →
        first (slot + 1) = first slot + if LabelAttempted window cell (first slot) then 2 else 1) ∧
      drawn.window =
        { window with
          attempts := first cells.length
          calls := window.calls ++ [.erase] ++
            (cells.zipIdx.flatMap fun place => cellCalls window place.1 (first place.2)) ++
              [.refreshLater] } ∧
      drawn.records = cells.zipIdx.flatMap fun place =>
        if cellFault window place.1 (first place.2) = some .unforeseen then
          [⟨.error, Journal.root, "Unexpected error drawing legend cell " ++ place.1.description⟩]
        else [] := by
  intro cells drawn
  -- Every cell starts at the attempt the cells before it left; the erase is none.
  obtain ⟨first, numbers⟩ := exists_countsAttempts (window.call .erase) cells
  have whole := drawCells_eq (window.call .erase) cells first numbers
  have shown : drawn = ⟨(drawCells (window.call .erase) cells).1.call .refreshLater, cells,
      (drawCells (window.call .erase) cells).2⟩ := rfl
  rw [shown, whole]
  refine ⟨rfl, first, numbers.1, numbers.2, rfl, ?_⟩
  simp only [cellRecords_eq]
  rfl

/-- The key of the first cell is refused, so the label of the second one is the third attempt. -/
theorem draw_isolated_moved :
    let window : Window :=
      { height := 2
        width := 24
        fault := fun attempt => [(0, .refused), (2, .unforeseen)].lookup attempt }
    let entries : List LegendEntry := [.menu .keys, .menu .color]
    let table := Table.fresh ⟨{}, Terminal.usualName⟩
    let keys : LegendCell := ⟨.menu .keys, 0, 2, "k", 4, "Keys"⟩
    ((make 6).layout table entries 0 24)[0]? = some keys ∧
      ((make 6).draw table window entries 0).window.calls =
        [.erase, .text 1 2 "c" true, .refreshLater] := by
  intro window entries table keys
  have cells : (make 6).layout table entries 0 24 = [keys, ⟨.menu .color, 1, 2, "c", 4, "Color"⟩] := by
    decide +kernel
  have found : ((make 6).layout table entries 0 24)[0]? = some keys := by rw [cells]; rfl
  obtain ⟨-, first, start, next, whole, -⟩ := draw_isolated (make 6) table window entries 0
  have behind := next 0 keys found
  have refused : ¬ LabelAttempted window keys 0 := by decide
  rw [start, if_neg refused] at behind
  refine ⟨found, ?_⟩
  rw [whole, cells]
  simp only [List.zipIdx_cons, List.zipIdx_nil, List.flatMap_cons, List.flatMap_nil, start, behind]
  rfl

end KeyBindings.LegendGrid
