import KeyBindings.Proofs.Legend.KeyText
import KeyBindings.Proofs.Legend.Paging

/-!
# Where the cells of a legend stand

The columns of a page are at least as far apart as an entry is wide, so no key and no label reaches
into the next column. In a window that holds an entry at all, every key is inside it and every label
begins there. A label can still be cut at the edge of the window: the last column of a page with an
odd number of slots is half empty, and it is counted as half a column.
-/
namespace KeyBindings.LegendGrid

/-! ### How far the columns are apart -/

section

variable (grid : LegendGrid) {width slots column : Int}

theorem entryCells_eq : entryCells = 12 := rfl

/-- A row holds no more entries than fit, except that it always holds one. -/
theorem perLine_fits (roomy : 2 ≤ grid.perLine width ∨ entryCells ≤ width) :
    entryCells * grid.perLine width ≤ width := by
  unfold perLine at roomy ⊢
  rw [entryCells_eq] at roomy ⊢
  omega

/-- The columns are as far apart as an entry is wide. -/
theorem entryCells_le_pitch (positive : 0 < slots) (onPage : slots ≤ grid.pageSize width)
    (roomy : 3 ≤ slots ∨ entryCells ≤ width) : entryCells ≤ width * 2 / slots := by
  -- Three slots on a page mean that a row holds two entries, which it does only when they fit.
  have several : 2 ≤ grid.perLine width ∨ entryCells ≤ width := by
    unfold pageSize at onPage
    omega
  have room := grid.perLine_fits several
  unfold pageSize at onPage
  rw [Int.le_ediv_iff_mul_le positive]
  rw [entryCells_eq] at room ⊢
  omega

/-- A column with both its slots on the page ends inside the window. -/
theorem column_ends (natural : 0 ≤ column) (wide : 0 ≤ width) (both : 2 * (column + 1) ≤ slots) :
    (column + 1) * (width * 2 / slots) ≤ width := by
  have shared : width * 2 / slots * slots ≤ width * 2 := Int.ediv_mul_le _ (by omega)
  have pitch : 0 ≤ width * 2 / slots := Int.ediv_nonneg (by omega) (by omega)
  have doubled : 2 * ((column + 1) * (width * 2 / slots)) ≤ width * 2 :=
    calc
      2 * ((column + 1) * (width * 2 / slots)) = width * 2 / slots * (2 * (column + 1)) := by
        rw [Int.mul_comm (width * 2 / slots), Int.mul_assoc]
      _ ≤ width * 2 / slots * slots := Int.mul_le_mul_of_nonneg_left both pitch
      _ ≤ width * 2 := shared
  omega

/-- A column with one slot on the page is counted as half a column. -/
theorem half_column_ends (single : slots = 2 * column + 1) :
    2 * (column * (width * 2 / slots)) + width * 2 / slots ≤ width * 2 := by
  have shared : width * 2 / slots * slots ≤ width * 2 := Int.ediv_mul_le _ (by omega)
  generalize width * 2 / slots = pitch at shared ⊢
  have spread : pitch * slots = 2 * (column * pitch) + pitch := by
    rw [single, Int.mul_add, Int.mul_one, Int.mul_left_comm, Int.mul_comm pitch]
  omega

end

/-! ### The cells of a page -/

section

variable {grid : LegendGrid} {table : Table} {entries : List LegendEntry} {page width : Int}
  {cell other : LegendCell} {slot later : Nat}

theorem natural_of_cell (found : (grid.layout table entries page width)[slot]? = some cell) :
    0 ≤ page := by
  by_contra negative
  have none : grid.layout table entries page width = [] := by
    rw [← List.map_eq_nil_iff (f := LegendCell.entry), entries_layout,
      pageEntries_negative grid entries width (by omega)]
  simp [none] at found

theorem length_layout :
    (grid.layout table entries page width).length = (grid.pageEntries entries page width).length := by
  rw [← entries_layout grid table entries width page, List.length_map]

theorem slot_lt (found : (grid.layout table entries page width)[slot]? = some cell) :
    slot < (grid.layout table entries page width).length :=
  (List.getElem?_eq_some_iff.mp found).1

/-- A page that shows something has a cell for each of its slots. -/
theorem slotCount_eq_length (found : (grid.layout table entries page width)[slot]? = some cell) :
    grid.slotCount entries.length page width = (grid.layout table entries page width).length := by
  have natural := natural_of_cell found
  have forward := grid.pageStep_eq width
  have start := grid.pageBase_nonneg width natural
  have some := slot_lt found
  rw [length_layout] at some ⊢
  unfold slotCount
  -- An overflowing page has a slot more for the way to the next page; the others end the list.
  by_cases overflows : grid.pageBase page width + grid.pageSize width < entries.length
  · rw [pageEntries_overflowing grid entries width natural overflows, List.length_append,
      List.length_take, List.length_drop, List.length_singleton]
    omega
  · rw [pageEntries_reaching grid entries width natural (by omega), List.length_drop] at some ⊢
    omega

theorem length_le_pageSize (found : (grid.layout table entries page width)[slot]? = some cell) :
    ((grid.layout table entries page width).length : Int) ≤ grid.pageSize width := by
  rw [← slotCount_eq_length found]
  unfold slotCount
  omega

/-- A cell shows its entry in its slot, and the slots of a page share the width of the window. -/
theorem eq_cellAt (found : (grid.layout table entries page width)[slot]? = some cell) :
    ∃ entry, cell = cellAt table (width * 2 / (grid.layout table entries page width).length) entry slot := by
  rw [← slotCount_eq_length found]
  simp only [layout, List.getElem?_map, List.getElem?_zipIdx, Nat.zero_add, Option.map_map,
    Option.map_eq_some_iff] at found
  obtain ⟨entry, -, same⟩ := found
  exact ⟨entry, same.symm⟩

theorem labelX_eq (found : (grid.layout table entries page width)[slot]? = some cell) :
    cell.labelX =
      (slot / 2 : Nat) * (width * 2 / (grid.layout table entries page width).length) + 4 := by
  obtain ⟨entry, rfl⟩ := eq_cellAt found
  exact Int.add_assoc _ 3 1

theorem labelX_natural (found : (grid.layout table entries page width)[slot]? = some cell)
    (natural : 0 ≤ width) : 4 ≤ cell.labelX := by
  have pitch : 0 ≤ width * 2 / ((grid.layout table entries page width).length : Int) :=
    Int.ediv_nonneg (by omega) (by omega)
  have column := Int.mul_nonneg (Int.natCast_nonneg (slot / 2)) pitch
  rw [labelX_eq found]
  omega

theorem label_fits (found : (grid.layout table entries page width)[slot]? = some cell) :
    Text.IsPrintable cell.label.toList ∧ Text.displayWidth cell.label ≤ labelCells := by
  obtain ⟨entry, rfl⟩ := eq_cellAt found
  exact ⟨entry.isPrintable_title, entry.title_fits⟩

/-- Two cells in one row are as far apart as an entry is wide. -/
theorem labelX_apart (found : (grid.layout table entries page width)[slot]? = some cell)
    (found' : (grid.layout table entries page width)[later]? = some other) (before : slot < later)
    (sameRow : slot % 2 = later % 2) : cell.labelX + entryCells ≤ other.labelX := by
  have last := slot_lt found'
  have wide := grid.entryCells_le_pitch (by omega) (length_le_pageSize found) (.inl (by omega))
  rw [labelX_eq found, labelX_eq found']
  generalize width * 2 / ((grid.layout table entries page width).length : Int) = pitch at wide ⊢
  have forward : 0 ≤ pitch := Int.le_trans (by decide) wide
  have next : ((slot / 2 : Nat) + 1 : Int) * pitch ≤ (later / 2 : Nat) * pitch :=
    Int.mul_le_mul_of_nonneg_right (by omega) forward
  rw [Int.add_mul, Int.one_mul] at next
  omega

/-- In a window that holds an entry a cell leaves room for a whole label, or it is the last of an odd
number of slots. Its label begins inside the window even then. -/
theorem room_of_cell (found : (grid.layout table entries page width)[slot]? = some cell)
    (roomy : entryCells ≤ width) :
    cell.labelX + labelCells ≤ width ∨
      (grid.layout table entries page width).length = slot + 1 ∧ slot % 2 = 0 ∧
        cell.labelX < width := by
  have last := slot_lt found
  have wide := grid.entryCells_le_pitch (by omega) (length_le_pageSize found) (.inr roomy)
  rw [labelX_eq found]
  rw [entryCells_eq] at roomy wide
  generalize (grid.layout table entries page width).length = slots at last wide ⊢
  unfold labelCells
  -- The last column of an odd number of slots is the only one with a single slot.
  by_cases both : 2 * ((slot / 2 : Nat) + 1) ≤ slots
  · have ends : ((slot / 2 : Nat) + 1 : Int) * (width * 2 / slots) ≤ width :=
      column_ends (by omega) (by omega) (by omega)
    rw [Int.add_mul, Int.one_mul] at ends
    omega
  · have ends : 2 * ((slot / 2 : Nat) * (width * 2 / slots)) + width * 2 / slots ≤ width * 2 :=
      half_column_ends (by omega)
    omega

end

/-- The keys of a legend stand right-aligned in their three cells, cell by cell in the two rows, and
no key or label reaches into the next column. In a window that holds an entry every key is inside it
and every label begins there. -/
theorem layout_aligned (limits : Limits) (terminal : Terminal) (sparse : terminal.IsSparse)
    (table : Table) (made : Keyboard.make limits terminal = .ok table.keyboard) (columns : Int)
    (entries : List LegendEntry) (page width : Int) :
    let cells := (make columns).layout table entries page width
    (∀ (slot : Nat) (cell : LegendCell), cells[slot]? = some cell →
      cell.y = (slot % 2 : Nat) ∧
        cell.keyX + Text.displayWidth cell.keyText = cell.labelX - 1 ∧
        cell.labelX - 4 ≤ cell.keyX) ∧
    (∀ (slot : Nat) (cell next : LegendCell), cells[slot]? = some cell →
      cells[slot + 2]? = some next →
        cell.labelX + 8 ≤ next.labelX - 4) ∧
    (∀ (slot later : Nat) (cell other : LegendCell), slot < later → cells[slot]? = some cell →
      cells[later]? = some other → cell.y = other.y →
        cell.labelX + Text.displayWidth cell.label ≤ other.keyX) ∧
    (12 ≤ width → ∀ cell ∈ cells,
      0 ≤ cell.keyX ∧ cell.keyX + Text.displayWidth cell.keyText ≤ width ∧ cell.labelX < width) := by
  intro cells
  have given : ∀ code, table.keyboard.given code = Terminal.usualName code ∨
      table.keyboard.given code = "" := by
    rw [Keyboard.eq_of_make made]
    exact fun code => (sparse code).2
  have aligned : ∀ (slot : Nat) (cell : LegendCell), cells[slot]? = some cell →
      cell.y = (slot % 2 : Nat) ∧ cell.keyX + Text.displayWidth cell.keyText = cell.labelX - 1 ∧
        cell.labelX - 4 ≤ cell.keyX := by
    intro slot cell found
    obtain ⟨entry, rfl⟩ := eq_cellAt found
    have fits := entry.keyText_fits table given
    refine ⟨rfl, ?_⟩
    simp only [cellAt, keyCells] at fits ⊢
    omega
  refine ⟨aligned, ?_, ?_, ?_⟩
  · intro slot cell next found found'
    have apart := labelX_apart found found' (by omega) (by omega)
    rw [entryCells_eq] at apart
    omega
  · intro slot later cell other before found found' sameRow
    obtain ⟨row, -, -⟩ := aligned slot cell found
    obtain ⟨row', -, start⟩ := aligned later other found'
    have apart := labelX_apart found found' before (by omega)
    have fits := (label_fits found).2
    rw [entryCells_eq] at apart
    unfold labelCells at fits
    omega
  · intro roomy cell member
    obtain ⟨slot, found⟩ := List.getElem?_of_mem member
    obtain ⟨-, right, left⟩ := aligned slot cell found
    have column := labelX_natural found (show 0 ≤ width by omega)
    -- The key stands left of its label, so it is inside when the label begins there.
    rcases room_of_cell found roomy with room | ⟨-, -, inside⟩
    · unfold labelCells at room
      omega
    · omega

/-- Two columns that just fit, of which the second has one entry: it begins where the first one ends. -/
theorem layout_aligned_tight :
    let table := Table.fresh Keyboard.usual
    let entries : List LegendEntry := [.action .cancel, .menu .keys, .action .quit, .menu .color]
    let cells := (make 6).layout table entries 0 24
    (12 : Int) ≤ 24 ∧ ∃ cell next : LegendCell, cells[0]? = some cell ∧ cells[2]? = some next ∧
      cell.labelX + 8 ≤ next.labelX - 4 ∧ next.keyX + Text.displayWidth next.keyText ≤ 24 := by
  intro table entries cells
  have sparse : Terminal.usual.IsSparse := fun code => ⟨by simp [Terminal.usual], .inl rfl⟩
  obtain ⟨-, apart, -, inside⟩ :=
    layout_aligned {} Terminal.usual sparse table Keyboard.make_usual 6 entries 0 24
  have first : cells[0]? = some ⟨.action .cancel, 0, 0, "XXX", 4, "Cancel"⟩ := by decide +kernel
  have third : cells[2]? = some ⟨.action .quit, 0, 12, "XXX", 16, "Quit"⟩ := by decide +kernel
  exact ⟨by decide, _, _, first, third, apart 0 _ _ first third,
    (inside (by decide) _ (List.mem_of_getElem? third)).2.1⟩

/-- In a window that holds an entry a cell leaves room for its whole label, so that it is written whole,
unless the cell is the last of an odd number of slots and its column begins too far to the right. -/
theorem label_room_iff (columns : Int) (table : Table) (entries : List LegendEntry)
    (page width : Int) (roomy : 12 ≤ width) :
    let cells := (make columns).layout table entries page width
    ∀ (slot : Nat) (cell : LegendCell), cells[slot]? = some cell →
      (cell.labelX + Text.displayWidth cell.label ≤ width ↔
        ¬ (cells.length % 2 = 1 ∧ slot + 1 = cells.length ∧
          width < (slot / 2 : Nat) * (width * 2 / cells.length) + 4 +
            Text.displayWidth cell.label)) ∧
      (Text.clipText cell.label (width - cell.labelX) = cell.label ↔
        cell.labelX + Text.displayWidth cell.label ≤ width) := by
  intro cells slot cell found
  obtain ⟨printable, fits⟩ := label_fits found
  -- Two cells share a column; only the last cell of an odd page has a half column.
  have place : cell.labelX = (slot / 2 : Nat) * (width * 2 / cells.length) + 4 := labelX_eq found
  have room : cell.labelX + labelCells ≤ width ∨
      cells.length = slot + 1 ∧ slot % 2 = 0 ∧ cell.labelX < width := room_of_cell found roomy
  unfold labelCells at fits room
  constructor
  · rw [place] at room ⊢
    omega
  · rw [Text.clipText_eq_self_iff printable (by omega)]
    omega

/-- Three entries in a window for two columns: the third has its column to itself and just fits. -/
theorem label_room_iff_odd :
    let cells := (make 6).layout (Table.fresh Keyboard.usual)
      (List.replicate 3 (.action .addAppointment)) 0 36
    (12 : Int) ≤ 36 ∧ ∃ cell : LegendCell, cells[2]? = some cell ∧
      cell.labelX + Text.displayWidth cell.label ≤ 36 := by
  intro cells
  have third : cells[2]? = some ⟨.action .addAppointment, 0, 24, "XXX", 28, "Add Appt"⟩ := by
    decide +kernel
  refine ⟨by decide, _, third, ?_⟩
  refine ((label_room_iff 6 _ _ 0 36 (by decide)) 2 _ third).1.mpr ?_
  decide +kernel

/-- A label that is cut although its column could stand further to the left. -/
theorem label_cut :
    let cells := (make 6).layout (Table.fresh Keyboard.usual)
      (List.replicate 3 (.action .addAppointment)) 0 24
    ¬ ∀ cell ∈ cells, cell.labelX + Text.displayWidth cell.label ≤ 24 := by
  intro cells whole
  have third : cells[2]? = some ⟨.action .addAppointment, 0, 16, "XXX", 20, "Add Appt"⟩ := by
    decide +kernel
  exact absurd (whole _ (List.mem_of_getElem? third)) (by decide +kernel)

end KeyBindings.LegendGrid
