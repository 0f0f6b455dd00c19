import KeyBindings.Legend.Layout
import KeyBindings.Proofs.Text.Clipping
import Mathlib.Algebra.Order.BigOperators.Group.List
import Mathlib.Algebra.Order.Group.Nat

/-!
# How wide a clipped text is shown

Clipping adds up the cells of the characters one by one, but a text is measured as a whole. The two
agree except in three ways: a joiner hides the character behind it, the emoji selector widens a
character before it, and next to a control character every character counts for at least one cell. So
a clipped text can be wider than the room that it was clipped to.
-/
namespace KeyBindings

namespace Text

variable {text rest : List Char} {c : Char} {last : Option Char} {room : Nat}

/-! ### Characters that are not measured -/

/-- The characters of a text that are measured: a joiner and the character behind it are not. -/
def measured : List Char → List Char
  | [] => []
  | c :: rest =>
    if c = joiner then
      match rest with
      | [] => []
      | _ :: rest => measured rest
    else c :: measured rest

theorem measured_cons (noJoiner : c ≠ joiner) (rest : List Char) :
    measured (c :: rest) = c :: measured rest := by
  rw [measured.eq_def]
  simp only [if_neg noJoiner]

theorem joiner_not_mem_measured (text : List Char) : joiner ∉ measured text := by
  induction text using measured.induct with
  | case1 => simp [measured]
  | case2 => simp [measured]
  | case3 hidden rest ih => simpa [measured] using ih
  | case4 c rest noJoiner ih =>
    rw [measured_cons noJoiner]
    simp [Ne.symm noJoiner, ih]

/-- A character that starts a text is measured by itself, unless it is a joiner or the selector
behind a character that fills a cell. -/
theorem shownCells?_cons (noJoiner : c ≠ joiner) (alone : c = emojiStyle → last = none)
    (rest : List Char) :
    shownCells? (c :: rest) last = do
      let width ← cellWidth? c
      let after ← shownCells? rest (if width > 0 then some c else last)
      return width + after := by
  rw [shownCells?.eq_def]
  simp only [if_neg noJoiner]
  split
  next selector => cases alone (by simpa using selector)
  next => rfl

theorem shownCells?_emojiStyle (base : Char) (rest : List Char) :
    shownCells? (emojiStyle :: rest) (some base) =
      (shownCells? rest none).map (· + if widenedByEmojiStyle.has base then 1 else 0) := by
  rw [shownCells?.eq_def]
  rfl

theorem shownCells?_measured (text : List Char) (last : Option Char) :
    shownCells? (measured text) last = shownCells? text last := by
  induction text, last using shownCells?.induct with
  | case1 last => rfl
  | case2 last => simp [measured, shownCells?]
  | case3 last hidden rest ih => simpa [measured, shownCells?] using ih
  | case4 c rest noJoiner base selector ih =>
    obtain rfl : c = emojiStyle := by simpa using selector
    rw [measured_cons noJoiner, shownCells?_emojiStyle, shownCells?_emojiStyle, ih]
  | case5 c rest last noJoiner other ih =>
    -- A selector that is counted here has no base before it.
    have alone : c = emojiStyle → last = none := by
      intro selector
      cases last with
      | none => rfl
      | some base => cases other base (by simpa using selector) rfl
    rw [measured_cons noJoiner, shownCells?_cons noJoiner alone, shownCells?_cons noJoiner alone]
    simp only [ih]

/-! ### Texts without control characters -/

/-- Is a character widened by the emoji style? The selector stands behind it, with nothing between
them that fills a cell. -/
def isWidened (c : Char) (behind : List Char) : Bool :=
  widenedByEmojiStyle.has c && (behind.takeWhile fun other => cellWidth other = 0).contains emojiStyle

/-- How many characters that fill a cell are widened. -/
def widenedCount : List Char → Nat
  | [] => 0
  | c :: rest => (if 0 < cellWidth c ∧ isWidened c rest then 1 else 0) + widenedCount rest

/-- What the emoji style adds to a character that was measured before some others. -/
def addedTo (last : Option Char) (behind : List Char) : Nat :=
  match last with
  | some base => if isWidened base behind then 1 else 0
  | none => 0

theorem cellWidth_of_some {width : Nat} (cells : cellWidth? c = some width) : cellWidth c = width := by
  rw [cellWidth, cells, Option.getD_some]

theorem cellWidth?_emojiStyle : cellWidth? emojiStyle = some 0 := by decide +kernel

theorem addedTo_solid (last : Option Char) (solid : 0 < cellWidth c) (rest : List Char) :
    addedTo last (c :: rest) = 0 := by
  have stops : decide (cellWidth c = 0) = false := decide_eq_false (by omega)
  cases last with
  | none => rfl
  | some base => simp [addedTo, isWidened, stops]

theorem addedTo_empty (empty : cellWidth c = 0) (alone : c = emojiStyle → last = none)
    (rest : List Char) : addedTo last (c :: rest) = addedTo last rest := by
  cases last with
  | none => rfl
  | some base =>
    have other : emojiStyle ≠ c := fun same => nomatch alone same.symm
    simp [addedTo, isWidened, empty, other]

theorem widenedCount_cons (c : Char) (rest : List Char) :
    widenedCount (c :: rest) =
      (if 0 < cellWidth c then addedTo (some c) rest else 0) + widenedCount rest := by
  rw [widenedCount, ite_and]
  rfl

theorem addedTo_emojiStyle (base : Char) (rest : List Char) :
    addedTo (some base) (emojiStyle :: rest) = if widenedByEmojiStyle.has base then 1 else 0 := by
  have empty := cellWidth_of_some cellWidth?_emojiStyle
  simp [addedTo, isWidened, empty]

/-- Without joiners and control characters a text is shown in the cells of its characters, and one
cell more for each that the emoji style widens. -/
theorem shownCells?_plain (noJoiner : joiner ∉ text) (plain : ∀ c ∈ text, cellWidth? c ≠ none)
    (last : Option Char) :
    shownCells? text last = some (cellCount text + addedTo last text + widenedCount text) := by
  -- The induction carries the last character that filled a cell: the selector may still widen it.
  induction text generalizing last with
  | nil => cases last <;> simp [shownCells?, cellCount, addedTo, isWidened, widenedCount]
  | cons c rest ih =>
    obtain ⟨first, tail⟩ := not_or.mp (mt List.mem_cons.mpr noJoiner)
    obtain ⟨solid, plain⟩ := List.forall_mem_cons.mp plain
    have after := ih tail plain
    obtain ⟨width, cells⟩ := Option.ne_none_iff_exists'.mp solid
    have same := cellWidth_of_some cells
    rw [cellCount, widenedCount_cons, same]
    -- The selector behind a character that fills a cell is the only one not measured by itself.
    by_cases alone : c = emojiStyle → last = none
    case pos =>
      rw [shownCells?_cons (Ne.symm first) alone, cells]
      by_cases fills : 0 < width
      · rw [addedTo_solid last (by omega), if_pos fills]
        simp only [Option.bind_eq_bind, Option.bind_some, gt_iff_lt, if_pos fills, after]
        exact congrArg some (by omega)
      · rw [addedTo_empty (by omega) alone, if_neg fills]
        simp only [Option.bind_eq_bind, Option.bind_some, gt_iff_lt, if_neg fills, after]
        exact congrArg some (by omega)
    case neg =>
      obtain ⟨rfl, known⟩ := Classical.not_imp.mp alone
      obtain ⟨base, rfl⟩ := Option.ne_none_iff_exists'.mp known
      obtain rfl : width = 0 := Option.some.inj (cells.symm.trans cellWidth?_emojiStyle)
      rw [shownCells?_emojiStyle, after none, addedTo_emojiStyle, Option.map_some]
      simp only [addedTo, Nat.lt_irrefl, if_false]
      exact congrArg some (by omega)

/-! ### Texts with control characters -/

theorem shownCells?_control (noJoiner : joiner ∉ text) (control : ∃ c ∈ text, cellWidth? c = none)
    (last : Option Char) : shownCells? text last = none := by
  induction text generalizing last with
  | nil =>
    obtain ⟨c, member, -⟩ := control
    cases member
  | cons c rest ih =>
    obtain ⟨first, tail⟩ := not_or.mp (mt List.mem_cons.mpr noJoiner)
    cases cells : cellWidth? c with
    | none =>
      have other : c ≠ emojiStyle := by
        rintro rfl
        cases cells.symm.trans cellWidth?_emojiStyle
      rw [shownCells?_cons (Ne.symm first) fun same => absurd same other, cells]
      rfl
    | some width =>
      have later : ∃ c ∈ rest, cellWidth? c = none := by
        obtain ⟨found, member, none⟩ := control
        rcases List.mem_cons.mp member with rfl | later
        · cases cells.symm.trans none
        · exact ⟨found, later, none⟩
      have after := ih tail later
      -- A selector behind a base widens the base; the control character still lies ahead.
      by_cases alone : c = emojiStyle → last = none
      case pos =>
        rw [shownCells?_cons (Ne.symm first) alone, cells]
        simp only [Option.bind_eq_bind, Option.bind_some, after, Option.bind_none]
      case neg =>
        obtain ⟨rfl, known⟩ := Classical.not_imp.mp alone
        obtain ⟨base, rfl⟩ := Option.ne_none_iff_exists'.mp known
        rw [shownCells?_emojiStyle, after none, Option.map_none]

theorem roughCells_eq (text : List Char) :
    roughCells text = cellCount text + text.countP (cellWidth · = 0) := by
  induction text with
  | nil => rfl
  | cons c rest ih =>
    rw [roughCells, cellCount, ih, List.countP_cons]
    by_cases empty : cellWidth c = 0
    · simp [empty]
      omega
    · simp [empty]
      omega

/-! ### The width of a text -/

/-- Is a control character among those that are measured? -/
def HasControl (text : List Char) : Prop := ∃ c ∈ measured text, cellWidth? c = none

instance (text : List Char) : Decidable (HasControl text) :=
  List.decidableBEx (fun c => cellWidth? c = none) (measured text)

theorem displayWidth_eq (text : String) :
    displayWidth text =
      if HasControl text.toList then
        cellCount text.toList + text.toList.countP (cellWidth · = 0)
      else cellCount (measured text.toList) + widenedCount (measured text.toList) := by
  have noJoiner := joiner_not_mem_measured text.toList
  rw [displayWidth, ← shownCells?_measured]
  split_ifs with control
  · rw [shownCells?_control noJoiner control, ← roughCells_eq]
  · have plain : ∀ c ∈ measured text.toList, cellWidth? c ≠ none :=
      fun c member none => control ⟨c, member, none⟩
    rw [shownCells?_plain noJoiner plain, addedTo, Nat.add_zero]

/-! ### Texts that stay within their room -/

theorem measured_sublist (text : List Char) : (measured text).Sublist text := by
  induction text using measured.induct with
  | case1 => exact List.Sublist.refl []
  | case2 => simp [measured]
  | case3 hidden rest ih =>
    have shorter : measured (joiner :: hidden :: rest) = measured rest := by simp [measured]
    rw [shorter]
    exact (ih.cons hidden).cons joiner
  | case4 c rest noJoiner ih =>
    rw [measured_cons noJoiner]
    exact ih.cons_cons c

theorem cellCount_measured_le (text : List Char) : cellCount (measured text) ≤ cellCount text := by
  rw [cellCount_eq_sum, cellCount_eq_sum]
  exact ((measured_sublist text).map cellWidth).sum_le_sum fun _ _ => Nat.zero_le _

theorem widenedCount_eq_zero (absent : emojiStyle ∉ text) : widenedCount text = 0 := by
  induction text with
  | nil => rfl
  | cons c rest ih =>
    have tail : emojiStyle ∉ rest := fun later => absent (List.mem_cons_of_mem c later)
    have unseen : isWidened c rest = false := by
      have before : emojiStyle ∉ rest.takeWhile fun other => cellWidth other = 0 :=
        fun seen => tail ((List.takeWhile_sublist _).subset seen)
      simp [isWidened, before]
    rw [widenedCount, ih tail, unseen]
    simp

/-- A clipped text is shown within its room exactly when the cells of its characters, with one more
for each that has none, fit beside a control character, and otherwise when the cells of the measured
characters fit, with one more for each that the emoji style widens. Without the selector, and without
characters that have no cell beside a control character, they do. A key of the legend is moved to the
left, out of its three cells, exactly when it is shown wider than the room it was clipped to. -/
theorem displayWidth_clipText_iff (text : String) (room : Nat) :
    let kept := (clipText text room).toList
    (displayWidth (clipText text room) ≤ room ↔
      if HasControl kept then cellCount kept + kept.countP (cellWidth · = 0) ≤ room
      else cellCount (measured kept) + widenedCount (measured kept) ≤ room) ∧
    (emojiStyle ∉ kept → ((∃ c ∈ kept, cellWidth? c = none) → ∀ c ∈ kept, cellWidth c ≠ 0) →
      displayWidth (clipText text room) ≤ room) ∧
    ∀ (grid : LegendGrid) (table : Table) (entries : List LegendEntry) (page width : Int),
      ∀ cell ∈ grid.layout table entries page width,
        cell.keyText = clipText (cell.entry.keyText table) (3 : Nat) ∧
        (cell.labelX - 4 ≤ cell.keyX ↔ displayWidth cell.keyText ≤ 3) := by
  intro kept
  have clipped : kept = clip text.toList room := by
    simp only [kept, clipText_natCast, String.toList_ofList]
  have shown : displayWidth (clipText text room) ≤ room ↔
      if HasControl kept then cellCount kept + kept.countP (cellWidth · = 0) ≤ room
      else cellCount (measured kept) + widenedCount (measured kept) ≤ room := by
    rw [displayWidth_eq]
    split_ifs <;> rfl
  refine ⟨shown, ?_, ?_⟩
  · intro noSelector solid
    have fits : cellCount kept ≤ room := clipped ▸ cellCount_clip text.toList room
    apply shown.mpr
    -- With a control character each one counts alone; without it the cells are measured.
    split_ifs with control
    · obtain ⟨c, member, none⟩ := control
      have filled := solid ⟨c, (measured_sublist kept).subset member, none⟩
      have nothing : kept.countP (cellWidth · = 0) = 0 :=
        List.countP_eq_zero.mpr fun c member => by simpa using filled c member
      omega
    · have less := cellCount_measured_le kept
      have nothing := widenedCount_eq_zero fun seen => noSelector ((measured_sublist kept).subset seen)
      omega
  · intro grid table entries page width cell member
    obtain ⟨⟨entry, slot⟩, -, rfl⟩ := List.mem_map.mp member
    simp only [LegendGrid.cellAt, LegendGrid.keyCells, true_and]
    omega

/-- Two control characters in a room that has one cell left, which a wide character does not fit. -/
theorem displayWidth_clipText_iff_control :
    let kept := (clipText "\x01\x02日" (3 : Nat)).toList
    emojiStyle ∉ kept ∧ (∃ c ∈ kept, cellWidth? c = none) ∧ (∀ c ∈ kept, cellWidth c ≠ 0) ∧
      displayWidth (clipText "\x01\x02日" (3 : Nat)) ≤ 3 := by
  intro kept
  have clipped : kept = ['\x01', '\x02'] := by decide +kernel
  have noSelector : emojiStyle ∉ kept := by rw [clipped]; decide
  have control : ∃ c ∈ kept, cellWidth? c = none := by
    rw [clipped]
    exact ⟨'\x01', List.mem_cons_self, by decide⟩
  have filled : ∀ c ∈ kept, cellWidth c ≠ 0 := by
    rw [clipped, List.forall_mem_cons, List.forall_mem_singleton]
    decide
  exact ⟨noSelector, control, filled,
    (displayWidth_clipText_iff "\x01\x02日" 3).2.1 noSelector fun _ => filled⟩

/-- Clipped texts that are wider than their room: an accent behind a control character, and a
character behind which the emoji selector stands. -/
theorem displayWidth_clipText_overflows :
    ¬ displayWidth (clipText "\x01\u0301" (1 : Nat)) ≤ 1 ∧
      ¬ displayWidth (clipText "❤\uFE0F" (1 : Nat)) ≤ 1 := by
  decide +kernel

end Text

end KeyBindings
