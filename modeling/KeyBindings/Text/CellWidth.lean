import KeyBindings.Text.CellTables

/-!
# Cell widths

The legend is drawn in cells, so text is measured and clipped in cells. `clip` keeps the
longest part from the start whose characters fit, counting a control character as one cell.
`displayWidth` measures a whole text as a terminal shows it, where joined characters share
a cell and the emoji variation selector widens the character before it.
-/
namespace KeyBindings.Text

/-- The cells a character fills, or nothing for a control character. -/
def cellWidth? (c : Char) : Option Nat :=
  if c.toNat = 0 then some 0
  else if c.toNat < 0x20 || (0x7F ≤ c.toNat && c.toNat < 0xA0) then none
  else if zeroWidth.has c then some 0
  else if doubleWidth.has c then some 2
  else some 1

/-- The cells a character is given when a text is clipped: a control character gets one. -/
def cellWidth (c : Char) : Nat := (cellWidth? c).getD 1

/-- The cells of a text, character by character. -/
def cellCount : List Char → Nat
  | [] => 0
  | c :: rest => cellWidth c + cellCount rest

/-- The longest part from the start of `text` that fits in `room` cells. -/
def clip : List Char → Nat → List Char
  | [], _ => []
  | c :: rest, room => if cellWidth c ≤ room then c :: clip rest (room - cellWidth c) else []

/-- Clipping to a room that may be negative: a negative room holds nothing. -/
def clipText (text : String) (room : Int) : String :=
  if room < 0 then "" else String.ofList (clip text.toList room.toNat)

/-- Joins the characters on its two sides into one. -/
def joiner : Char := '\u200D'

/-- Asks for the emoji shape of the character before it. -/
def emojiStyle : Char := '\uFE0F'

/-- The cells of a text shown as a whole, or nothing when it holds a control character. The
last character that filled a cell is carried along for the emoji variation selector. -/
def shownCells? : List Char → Option Char → Option Nat
  | [], _ => some 0
  | c :: rest, last =>
    if c = joiner then
      match rest with
      | [] => some 0
      | _ :: rest => shownCells? rest last
    else match c == emojiStyle, last with
      | true, some base =>
        (shownCells? rest none).map (· + if widenedByEmojiStyle.has base then 1 else 0)
      | _, _ => do
        let width ← cellWidth? c
        let after ← shownCells? rest (if width > 0 then some c else last)
        return width + after

/-- The cells of a text with a control character in it, where every character counts for at
least one. -/
def roughCells : List Char → Nat
  | [] => 0
  | c :: rest => max (cellWidth c) 1 + roughCells rest

def displayWidth (text : String) : Nat :=
  match shownCells? text.toList none with
  | some width => width
  | none => roughCells text.toList

theorem clip_initial (text : List Char) (room : Nat) : clip text room <+: text := by
  induction text generalizing room with
  | nil => exact ⟨[], rfl⟩
  | cons c rest ih =>
    simp only [clip]
    split
    · exact (List.prefix_cons_inj c).mpr (ih _)
    · exact ⟨_, List.nil_append _⟩

theorem cellCount_clip (text : List Char) (room : Nat) : cellCount (clip text room) ≤ room := by
  induction text generalizing room with
  | nil => exact Nat.zero_le _
  | cons c rest ih =>
    simp only [clip]
    split
    next fits =>
      have tail := ih (room - cellWidth c)
      simp only [cellCount]
      omega
    · exact Nat.zero_le _

end KeyBindings.Text
