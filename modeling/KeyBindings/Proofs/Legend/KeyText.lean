import KeyBindings.Legend.Layout
import KeyBindings.Proofs.Key.SparseNames
import KeyBindings.Proofs.Text.CellWidth

/-!
# Keys and titles in the legend

With the usual names, or with none, a key is shown by a printable name or by one character, which
fits its three cells once it is clipped. Every title is printable and fits its eight cells.
-/
namespace KeyBindings

open Text (IsPrintable)

/-! ### Printable names -/

namespace Terminal

/-- The names that are listed, the short names and those of the function keys are printable. -/
theorem isPrintable_listed :
    (∀ n < 64, IsPrintable ("KEY_F" ++ toString n).toList) ∧
    (∀ name ∈ namesBelowFunctionKeys ++ namesAboveFunctionKeys.toList, IsPrintable name.toList) ∧
    ∀ entry ∈ KeyCode.shortNames, IsPrintable entry.2.toList := by
  decide +kernel

theorem isPrintable_empty : IsPrintable "".toList := by decide

theorem isPrintable_character (n : Nat) (low : 32 ≤ n) (high : n < 127) (text : List Char)
    (rest : IsPrintable text) : IsPrintable (Char.ofNat n :: text) := by
  intro c member
  rcases List.mem_cons.mp member with rfl | later
  · rw [toNat_ascii n (by omega)]
    omega
  · exact rest c later

theorem isPrintable_usualName (code : Int) : IsPrintable (usualName code).toList := by
  rcases usualName_forms code with
    same | ⟨n, -, control, same⟩ | ⟨n, -, low, high, same⟩ | same | ⟨n, counted, same⟩ | listed
  · rw [same]
    exact isPrintable_empty
  · rw [same, String.toList_ofList]
    exact isPrintable_character 94 (by decide) (by decide) _
      (isPrintable_character _ (by omega) (by omega) [] (by decide))
  · rw [same, String.toList_singleton]
    exact isPrintable_character n low (by omega) [] (by decide)
  · rw [same]
    decide
  · rw [same]
    exact isPrintable_listed.1 n counted
  · exact isPrintable_listed.2.1 _ listed

end Terminal

namespace Keyboard

variable {keyboard : Keyboard}
  (given : ∀ code, keyboard.given code = Terminal.usualName code ∨ keyboard.given code = "")
include given

/-- Whatever the limits are, the table holds printable names. -/
theorem isPrintable_keyName (code : Int) : IsPrintable (keyboard.keyName code).toList := by
  -- The terminal answers with its usual name or with nothing, both printable.
  have answered : ∀ slot, IsPrintable (keyboard.given slot).toList := by
    intro slot
    rcases given slot with usual | none
    · rw [usual]
      exact Terminal.isPrintable_usualName slot
    · rw [none]
      exact Terminal.isPrintable_empty
  unfold keyName
  simp only
  cases found : KeyCode.shortNames.lookup (keyboard.limits.slot code) with
  | none => exact answered _
  | some name =>
    dsimp only
    split
    · exact Terminal.isPrintable_listed.2.2 _ (Entries.mem_of_lookup found)
    · exact answered _

/-- A key is named by one character, or by a printable name. -/
theorem nameOf?_shape {code : Int} {name : String} (named : keyboard.nameOf? code = some name) :
    (∃ c, name = String.singleton c) ∨ IsPrintable name.toList := by
  -- Below keyMax the name is the listed one; above it is a single character.
  have listed : ∀ shown, (if keyboard.keyName code = "" then none else some (keyboard.keyName code)) =
      some shown → IsPrintable shown.toList := by
    intro shown same
    split at same
    · cases same
    · obtain rfl := Option.some.inj same
      exact isPrintable_keyName given code
  cases range : keyboard.limits.classify? code with
  | none => simp [nameOf?, range] at named
  | some kind =>
    cases kind with
    | extended =>
      simp only [nameOf?, range, Option.some.injEq] at named
      exact .inl ⟨_, named.symm⟩
    | ordinary =>
      simp only [nameOf?, range] at named
      exact .inr (listed name named)
    | pseudo =>
      simp only [nameOf?, range] at named
      exact .inr (listed name named)

end Keyboard

/-! ### What the legend shows -/

theorem MenuEntry.isPrintable_keyText (entry : MenuEntry) : IsPrintable entry.keyText.toList := by
  cases entry <;> decide

namespace LegendEntry

theorem keyText_fits (table : Table)
    (given : ∀ code, table.keyboard.given code = Terminal.usualName code ∨
      table.keyboard.given code = "") (entry : LegendEntry) :
    Text.displayWidth (Text.clipText (entry.keyText table) LegendGrid.keyCells) ≤
      LegendGrid.keyCells := by
  have shape : (∃ c, entry.keyText table = String.singleton c) ∨
      IsPrintable (entry.keyText table).toList := by
    cases entry with
    | menu entry => exact .inr entry.isPrintable_keyText
    | action bound =>
      simp only [LegendEntry.keyText, Table.firstKey]
      cases names : table.keyNames bound with
      | nil => exact .inr (by decide)
      | cons name rest =>
        have member : name ∈ table.keyNames bound := by simp [names]
        obtain ⟨code, -, named⟩ := List.mem_filterMap.mp member
        exact Keyboard.nameOf?_shape given named
  -- One character has at most two cells; a printable text is cut to the room.
  rcases shape with ⟨c, same⟩ | printable
  · rw [same, Text.clipText_singleton c (by decide)]
    exact Nat.le_trans (Text.displayWidth_singleton c) (by decide)
  · exact Text.displayWidth_clipText_printable printable _

theorem isPrintable_title (entry : LegendEntry) : IsPrintable entry.title.toList := by
  cases entry with
  | action bound => cases bound <;> decide
  | menu entry => cases entry <;> decide

theorem title_fits (entry : LegendEntry) : Text.displayWidth entry.title ≤ LegendGrid.labelCells := by
  rw [Text.displayWidth_printable entry.isPrintable_title]
  cases entry with
  | action bound => cases bound <;> decide
  | menu entry => cases entry <;> decide

end LegendEntry

end KeyBindings
