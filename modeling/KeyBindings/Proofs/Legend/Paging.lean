import KeyBindings.Legend.Layout
import Mathlib.Data.List.Basic
import Mathlib.Data.List.TakeDrop

/-!
# What the pages of a legend show

A page that is not the final one is full, and its last slot leads on. So the pages advance by one
slot less than they hold, and put together they show every entry once and in order. A page behind
the final one shows nothing, but for one case: a final page without a free slot has one more page
behind it, which shows the last entry again.
-/
namespace KeyBindings.LegendGrid

/-! ### The arithmetic of pages -/

section

variable (grid : LegendGrid) (width : Int)

theorem perLine_pos : 1 ≤ grid.perLine width := by
  unfold perLine
  omega

/-- A page advances by one slot less than it holds, which is at least one. -/
theorem pageStep_eq : grid.pageStep width = grid.pageSize width - 1 ∧ 1 ≤ grid.pageStep width := by
  have wide := grid.perLine_pos width
  unfold pageStep pageSize
  omega

theorem pageBase_succ (page : Int) :
    grid.pageBase (page + 1) width = grid.pageBase page width + grid.pageStep width := by
  rw [pageBase, Int.add_mul, Int.one_mul, pageBase]

theorem pageBase_mono {page later : Int} (order : page ≤ later) :
    grid.pageBase page width ≤ grid.pageBase later width := by
  have forward := (grid.pageStep_eq width).2
  exact Int.mul_le_mul_of_nonneg_right order (by omega)

theorem pageBase_zero : grid.pageBase 0 width = 0 := Int.zero_mul _

theorem pageBase_nonneg {page : Int} (natural : 0 ≤ page) : 0 ≤ grid.pageBase page width := by
  have order := grid.pageBase_mono width natural
  rwa [pageBase_zero] at order

theorem toNat_pageBase (page : Nat) :
    (grid.pageBase page width).toNat = page * (grid.pageStep width).toNat := by
  have forward := (grid.pageStep_eq width).2
  rw [pageBase, Int.toNat_mul (by omega) (by omega), Int.toNat_natCast]

/-- The pages before the final one are those that the entries overflow. -/
theorem overflows_iff (count : Int) {page : Int} (natural : 0 ≤ page) :
    grid.pageBase page width + grid.pageSize width < count ↔
      page + 1 < grid.pageCount count width := by
  have forward := (grid.pageStep_eq width).2
  have start := grid.pageBase_nonneg width natural
  unfold pageCount
  simp only
  split
  next fits => omega
  next overflows =>
    -- The quotient is rounded up, so it lies above the number of a page when that many steps stay
    -- below the dividend.
    have rounded : page < (count - grid.pageSize width + (grid.pageStep width - 1)) /
        grid.pageStep width ↔ (page + 1) * grid.pageStep width ≤
          count - grid.pageSize width + (grid.pageStep width - 1) :=
      Int.le_ediv_iff_mul_le (by omega)
    have next := grid.pageBase_succ width page
    unfold pageBase at next ⊢
    omega

theorem pageCount_pos (count : Int) : 1 ≤ grid.pageCount count width := by
  by_cases fits : count ≤ grid.pageSize width
  · simp [pageCount, fits]
  · have start := grid.pageBase_zero width
    have more := (grid.overflows_iff width count (Int.le_refl 0)).mp (by omega)
    omega

def FillsFinalPage (grid : LegendGrid) (count width : Int) : Prop :=
  count = grid.pageBase (grid.pageCount count width - 1) width + grid.pageSize width

/-- No entry is left for a page behind the final one, unless the final page is full: the page after
it then begins with the last entry. -/
theorem exhausted_iff {count page : Int} (some : 0 < count) (natural : 0 ≤ page) :
    count ≤ grid.pageBase page width ↔
      grid.pageCount count width ≤ page ∧
        ¬ (page = grid.pageCount count width ∧ grid.FillsFinalPage count width) := by
  have forward := grid.pageStep_eq width
  have positive := grid.pageCount_pos width count
  have final : 0 ≤ grid.pageCount count width - 1 := by omega
  -- The final page is the first that the entries do not overflow.
  have reached := grid.overflows_iff width count final
  have behind := grid.pageBase_succ width (grid.pageCount count width - 1)
  rw [Int.sub_add_cancel] at reached behind
  unfold FillsFinalPage
  by_cases before : page < grid.pageCount count width
  case pos =>
    -- A page that is not the first begins where the page before it left off.
    have inside : grid.pageBase page width < count := by
      by_cases first : page = 0
      · rw [first, pageBase_zero]
        exact some
      · have previous := grid.overflows_iff width count (show 0 ≤ page - 1 by omega)
        have advance := grid.pageBase_succ width (page - 1)
        rw [Int.sub_add_cancel] at previous advance
        omega
    omega
  case neg =>
    by_cases next : page = grid.pageCount count width
    · rw [next]
      omega
    · have order := grid.pageBase_mono width (show grid.pageCount count width + 1 ≤ page by omega)
      have advance := grid.pageBase_succ width (grid.pageCount count width)
      omega

end

/-! ### What a page shows -/

section

variable (grid : LegendGrid) (table : Table) (entries : List LegendEntry) (width : Int)

theorem entries_layout (page : Int) :
    (grid.layout table entries page width).map LegendCell.entry =
      grid.pageEntries entries page width := by
  simp only [layout, List.map_map]
  exact List.zipIdx_map_fst 0 (grid.pageEntries entries page width)

theorem pageEntries_negative {page : Int} (negative : page < 0) :
    grid.pageEntries entries page width = [] := by
  simp [pageEntries, negative]

/-- A page that the entries overflow shows as many as it advances by, and then leads on. -/
theorem pageEntries_overflowing {page : Int} (natural : 0 ≤ page)
    (overflows : grid.pageBase page width + grid.pageSize width < entries.length) :
    grid.pageEntries entries page width =
      (entries.drop (grid.pageBase page width).toNat).take (grid.pageStep width).toNat ++
        [.action .otherCommands] := by
  have forward := grid.pageStep_eq width
  have start := grid.pageBase_nonneg width natural
  -- More entries remain than the page holds, so its last cell leads to the others.
  have full : grid.slotCount entries.length page width = grid.pageSize width := by
    unfold slotCount
    omega
  have some : ¬ (page < 0 ∨ grid.pageSize width ≤ 0) := by omega
  have goesOn : grid.pageBase page width + grid.pageSize width ≠ entries.length := by omega
  have room : (grid.pageSize width).toNat = (grid.pageStep width).toNat + 1 := by omega
  simp only [pageEntries, full, Bool.or_eq_true, decide_eq_true_eq, if_neg some, if_neg goesOn]
  rw [room, List.dropLast_take]
  · rw [Nat.add_sub_cancel]
  · rw [List.length_drop]
    omega

/-- A page that the entries do not overflow shows what is left of them. -/
theorem pageEntries_reaching {page : Int} (natural : 0 ≤ page)
    (reaches : entries.length ≤ grid.pageBase page width + grid.pageSize width) :
    grid.pageEntries entries page width = entries.drop (grid.pageBase page width).toNat := by
  have start := grid.pageBase_nonneg width natural
  have left : grid.slotCount entries.length page width = entries.length - grid.pageBase page width := by
    unfold slotCount
    omega
  unfold pageEntries
  simp only [left, Bool.or_eq_true, decide_eq_true_eq]
  split
  next none =>
    exact (List.drop_eq_nil_of_le (by omega)).symm
  next some =>
    rw [if_pos (by omega)]
    exact List.take_of_length_le (by rw [List.length_drop]; omega)

theorem layout_eq_nil {page : Int} (natural : 0 ≤ page) :
    grid.layout table entries page width = [] ↔ entries.length ≤ grid.pageBase page width := by
  have start := grid.pageBase_nonneg width natural
  rw [← List.map_eq_nil_iff (f := LegendCell.entry), entries_layout]
  by_cases overflows : grid.pageBase page width + grid.pageSize width < entries.length
  · have forward := grid.pageStep_eq width
    rw [pageEntries_overflowing grid entries width natural overflows]
    constructor
    · intro none
      cases (List.append_eq_nil_iff.mp none).2
    · intro exhausted
      omega
  · rw [pageEntries_reaching grid entries width natural (by omega), List.drop_eq_nil_iff]
    omega

/-- Where there are two entries, no page is left with a single one. -/
theorem two_le_length_layout (several : 2 ≤ entries.length) {page : Int} (natural : 0 ≤ page)
    (exists_page : page < grid.pageCount entries.length width) :
    2 ≤ (grid.layout table entries page width).length := by
  have forward := grid.pageStep_eq width
  have start := grid.pageBase_nonneg width natural
  rw [← List.length_map LegendCell.entry, entries_layout]
  by_cases overflows : grid.pageBase page width + grid.pageSize width < entries.length
  · rw [pageEntries_overflowing grid entries width natural overflows, List.length_append,
      List.length_take, List.length_drop, List.length_singleton]
    omega
  · rw [pageEntries_reaching grid entries width natural (by omega), List.length_drop]
    -- The page before was overflowed, so one entry more is left than the one that its slot gave up.
    by_cases first : page = 0
    · rw [first, pageBase_zero]
      omega
    · have previous := (grid.overflows_iff width entries.length (show 0 ≤ page - 1 by omega)).mpr
        (by omega)
      have advance := grid.pageBase_succ width (page - 1)
      rw [Int.sub_add_cancel] at advance
      omega

/-- Pieces of one length, one after the other, make up the first part of a list. -/
theorem flatMap_pieces (step count : Nat) :
    ((List.range count).flatMap fun page => (entries.drop (page * step)).take step) =
      entries.take (count * step) := by
  induction count with
  | zero => simp
  | succ count ih =>
    rw [List.range_succ, List.flatMap_append, ih, Nat.succ_mul, List.take_add]
    simp

end

/-- Without the slots that lead on, the pages of a legend show every entry once and in order. Every
page but the final one is full and ends with such a slot, and the final page has none: it shows the
entries from its first one to the last. -/
theorem layout_pages (columns : Int) (table : Table) (entries : List LegendEntry) (width : Int) :
    let grid := make columns
    let shown := fun page : Nat => (grid.layout table entries page width).map LegendCell.entry
    ∃ last : Nat, grid.pageCount entries.length width = last + 1 ∧
      ((List.range last).flatMap fun page => (shown page).dropLast) ++ shown last = entries ∧
      (∀ page < last, (shown page).length = grid.pageSize width ∧
        (shown page).getLast? = some (.action .otherCommands)) ∧
      shown last = entries.drop (grid.pageBase last width).toNat := by
  intro grid shown
  have forward := grid.pageStep_eq width
  have positive := grid.pageCount_pos width entries.length
  obtain ⟨last, count⟩ : ∃ last : Nat, grid.pageCount entries.length width = last + 1 :=
    ⟨(grid.pageCount entries.length width - 1).toNat, by omega⟩
  have overflows : ∀ page : Nat, page < last ↔
      grid.pageBase page width + grid.pageSize width < entries.length := fun page => by
    rw [grid.overflows_iff width entries.length (Int.natCast_nonneg page), count]
    omega
  have front : ∀ page < last, shown page =
      (entries.drop (page * (grid.pageStep width).toNat)).take (grid.pageStep width).toNat ++
        [.action .otherCommands] := fun page before => by
    rw [← toNat_pageBase]
    exact (grid.entries_layout table entries width page).trans
      (grid.pageEntries_overflowing entries width (by omega) ((overflows page).mp before))
  have final : shown last = entries.drop (grid.pageBase last width).toNat := by
    have reaches := (not_congr (overflows last)).mp (Nat.lt_irrefl last)
    exact (grid.entries_layout table entries width last).trans
      (grid.pageEntries_reaching entries width (by omega) (by omega))
  refine ⟨last, count, ?_, fun page before => ?_, final⟩
  -- Without their last slots the pages before the final one are pieces as long as a page advances.
  · have pieces : ((List.range last).flatMap fun page => (shown page).dropLast) =
        entries.take (last * (grid.pageStep width).toNat) := by
      rw [← flatMap_pieces]
      refine List.flatMap_congr fun page member => ?_
      rw [front page (List.mem_range.mp member), List.dropLast_concat]
    rw [pieces, final, toNat_pageBase, List.take_append_drop]
  · have room := (overflows page).mp before
    rw [front page before]
    constructor
    · rw [List.length_append, List.length_take, List.length_drop, ← toNat_pageBase]
      have start := grid.pageBase_nonneg width (Int.natCast_nonneg page)
      simp only [List.length_singleton]
      omega
    · exact List.getLast?_concat

/-- Three entries in a grid of two slots: the first page shows one of them and leads on. -/
theorem layout_pages_narrow :
    let grid := make 1
    let entries : List LegendEntry := [.action .cancel, .action .select, .menu .keys]
    let table := Table.fresh ⟨{}, Terminal.usualName⟩
    let shown := fun page : Nat => (grid.layout table entries page 12).map LegendCell.entry
    grid.pageCount entries.length 12 = 2 ∧ (shown 0).dropLast ++ shown 1 = entries ∧
      (shown 0).getLast? = some (.action .otherCommands) := by
  intro grid entries table shown
  have pages : grid.pageCount entries.length 12 = 2 := by decide
  obtain ⟨last, count, whole, front, -⟩ := layout_pages 1 table entries 12
  obtain rfl : last = 1 := by
    have same : (2 : Int) = last + 1 := pages.symm.trans count
    omega
  refine ⟨pages, ?_, (front 0 (by decide)).2⟩
  rw [List.range_one, List.flatMap_singleton] at whole
  exact whole

/-- A page lays out nothing exactly when it is negative, when there are no entries, or when it lies
behind the final page, with one exception: the page right behind a final page without a free slot
shows the last entry again. -/
theorem layout_eq_nil_iff (columns : Int) (table : Table) (entries : List LegendEntry)
    (page width : Int) :
    let grid := make columns
    let pages := grid.pageCount entries.length width
    (grid.layout table entries page width = [] ↔
      page < 0 ∨ entries = [] ∨
        pages ≤ page ∧ ¬ (page = pages ∧ grid.FillsFinalPage entries.length width)) ∧
    (grid.FillsFinalPage entries.length width →
      (grid.layout table entries pages width).map LegendCell.entry = entries.getLast?.toList) := by
  intro grid pages
  have forward := grid.pageStep_eq width
  have positive := grid.pageCount_pos width entries.length
  refine ⟨?_, fun full => ?_⟩
  · by_cases negative : page < 0
    · have none : grid.layout table entries page width = [] := by
        rw [← List.map_eq_nil_iff (f := LegendCell.entry), entries_layout,
          pageEntries_negative grid entries width negative]
      simp [none, negative]
    · have natural : 0 ≤ page := by omega
      rw [layout_eq_nil grid table entries width natural]
      -- Without entries every page is exhausted, whatever the final page is.
      cases entries with
      | nil => simp [grid.pageBase_nonneg width natural]
      | cons entry rest =>
        have some : (0 : Int) < (entry :: rest).length := by
          rw [List.length_cons]
          omega
        rw [grid.exhausted_iff width some natural]
        simp [negative, pages]
  · -- The page begins with the slot that the page before it ends with.
    have count : grid.pageCount entries.length width = pages := rfl
    have behind := grid.pageBase_succ width (pages - 1)
    have start := grid.pageBase_nonneg width (show 0 ≤ pages - 1 by omega)
    rw [FillsFinalPage, count] at full
    rw [Int.sub_add_cancel] at behind
    have last : (grid.pageBase pages width).toNat = entries.length - 1 := by omega
    have some : entries ≠ [] := List.ne_nil_of_length_pos (by omega)
    rw [entries_layout, pageEntries_reaching grid entries width (by omega) (by omega), last,
      List.drop_length_sub_one some, List.getLast?_eq_some_getLast some, Option.toList_some]

/-- Two entries fill a page of two slots. The page behind it shows the second of them again, and the
page behind that one nothing. -/
theorem layout_eq_nil_iff_full :
    let grid := make 1
    let entries : List LegendEntry := [.action .cancel, .action .select]
    let table := Table.fresh ⟨{}, Terminal.usualName⟩
    grid.FillsFinalPage entries.length 12 ∧
      (grid.layout table entries 1 12).map LegendCell.entry = [.action .select] ∧
      grid.layout table entries 2 12 = [] := by
  intro grid entries table
  have full : grid.FillsFinalPage entries.length 12 := by
    unfold FillsFinalPage
    decide
  have pages : grid.pageCount entries.length 12 = 1 := by decide
  refine ⟨full, (layout_eq_nil_iff 1 table entries 1 12).2 full, ?_⟩
  refine (layout_eq_nil_iff 1 table entries 2 12).1.mpr (.inr (.inr ⟨by decide, fun behind => ?_⟩))
  exact absurd (behind.1.trans pages) (by decide)

/-- A page behind the final one that shows an entry: the final page has two slots and two entries. -/
theorem layout_behind_final :
    let grid := make 1
    let entries : List LegendEntry := [.action .cancel, .action .select]
    let table := Table.fresh ⟨{}, Terminal.usualName⟩
    ¬ (grid.layout table entries 1 12 = [] ↔
      (1 : Int) < 0 ∨ grid.pageCount entries.length 12 ≤ 1 ∨ entries = []) := by
  intro grid entries table claimed
  have shows : (grid.layout table entries 1 12).map LegendCell.entry = [.action .select] :=
    (grid.entries_layout table entries 12 1).trans (by decide)
  have none := claimed.mpr (.inr (.inl (by decide)))
  rw [none] at shows
  cases shows

end KeyBindings.LegendGrid
