import KeyBindings.Proofs.Text.CellWidth
import Mathlib.Data.List.Infix
import Mathlib.Algebra.GroupWithZero.Nat

/-!
# What clipping keeps

Clipping looks at one character after the other and stops at the first that does not fit. Since a
longer part from the start of a text never fills fewer cells, what is kept is the longest part that
fits: characters without a cell at its end are kept as well, and a wide character that would reach
over the edge is not. So clipping twice is clipping once, to the smaller room.
-/
namespace KeyBindings.Text

variable {text front : List Char} {room other : Nat}

theorem cellCount_eq_sum (text : List Char) : cellCount text = (text.map cellWidth).sum := by
  induction text with
  | nil => rfl
  | cons c rest ih => rw [cellCount, ih, List.map_cons, List.sum_cons]

theorem cellCount_mono (initial : front <+: text) : cellCount front ≤ cellCount text := by
  obtain ⟨back, rfl⟩ := initial
  rw [cellCount_eq_sum, cellCount_eq_sum, List.map_append, List.sum_append]
  exact Nat.le_add_right _ _

/-- Every part from the start of a text that fits is kept. -/
theorem prefix_clip (initial : front <+: text) (fits : cellCount front ≤ room) :
    front <+: clip text room := by
  induction text generalizing front room with
  | nil => exact initial
  | cons c rest ih =>
    cases front with
    | nil => exact List.nil_prefix
    | cons first tail =>
      obtain ⟨rfl, inner⟩ := List.cons_prefix_cons.mp initial
      rw [cellCount] at fits
      have room' : cellCount tail ≤ room - cellWidth first := by omega
      rw [clip, if_pos (by omega)]
      exact List.cons_prefix_cons.mpr ⟨rfl, ih inner room'⟩

theorem prefix_clip_iff :
    front <+: clip text room ↔ front <+: text ∧ cellCount front ≤ room := by
  constructor
  · intro kept
    have bound := cellCount_clip text room
    exact ⟨kept.trans (clip_initial text room), (cellCount_mono kept).trans bound⟩
  · rintro ⟨initial, fits⟩
    exact prefix_clip initial fits

theorem clip_clip (text : List Char) (room other : Nat) :
    clip (clip text room) other = clip text (min room other) := by
  -- The parts that fit both rooms are the same ones on either side, so each side is part of the other.
  have same : ∀ front : List Char,
      front <+: clip (clip text room) other ↔ front <+: clip text (min room other) := by
    intro front
    rw [prefix_clip_iff, prefix_clip_iff, prefix_clip_iff, Nat.le_min, and_assoc]
  have forth := (same _).mp List.prefix_rfl
  have back := (same _).mpr List.prefix_rfl
  exact forth.eq_of_length_le back.length_le

/-- A text that is clipped is the longest part from its start whose characters fill no more than the
room, where a control character fills one cell. Clipped again it is as if it had been clipped once to
the smaller room. -/
theorem clipText_longest (text : String) (room other : Nat) :
    let cells := fun part : List Char => (part.map fun c => (cellWidth? c).getD 1).sum
    let kept := (clipText text room).toList
    kept <+: text.toList ∧ cells kept ≤ room ∧
      (∀ front, front <+: text.toList → cells front ≤ room → front <+: kept) ∧
      clipText (clipText text room) other = clipText text (min room other : Nat) := by
  intro cells kept
  have count : ∀ part, cells part = cellCount part := fun part => (cellCount_eq_sum part).symm
  have clipped : kept = clip text.toList room := by
    simp only [kept, clipText_natCast, String.toList_ofList]
  rw [clipped]
  refine ⟨clip_initial _ _, ?_, ?_, ?_⟩
  · rw [count]
    exact cellCount_clip text.toList room
  · intro front initial fits
    rw [count] at fits
    exact prefix_clip initial fits
  · simp only [clipText_natCast, String.toList_ofList, clip_clip]

/-- An accent behind the last cell is kept, and the wide character behind it reaches over the edge. -/
theorem clipText_longest_straddled :
    let front := ['e', '\u0301']
    front <+: "e\u0301日x".toList ∧ (front.map fun c => (cellWidth? c).getD 1).sum ≤ 2 ∧
      front <+: (clipText "e\u0301日x" (2 : Nat)).toList := by
  intro front
  have initial : front <+: "e\u0301日x".toList := ⟨['日', 'x'], by decide⟩
  have fits : (front.map fun c => (cellWidth? c).getD 1).sum ≤ 2 := by decide +kernel
  exact ⟨initial, fits, (clipText_longest "e\u0301日x" 2 0).2.2.1 front initial fits⟩

end KeyBindings.Text
