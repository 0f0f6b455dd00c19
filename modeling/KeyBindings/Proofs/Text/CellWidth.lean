import KeyBindings.Text.CellWidth

/-!
# How wide texts are shown

A printable character of ASCII fills one cell, so a text of such characters is as wide as it is long,
and clipping it leaves it that way. A single character of any kind is at most two cells wide.
-/
namespace KeyBindings.Text

variable {text : List Char}

/-! ### Clipping -/

theorem cellWidth_le (c : Char) : cellWidth c ≤ 2 := by
  unfold cellWidth cellWidth?
  repeat' split
  all_goals decide

theorem clip_eq_self_iff (text : List Char) (room : Nat) :
    clip text room = text ↔ cellCount text ≤ room := by
  induction text generalizing room with
  | nil => simp [clip, cellCount]
  | cons c rest ih =>
    simp only [clip, cellCount]
    split
    next fits =>
      rw [List.cons.injEq, ih]
      simp only [true_and]
      omega
    next wide =>
      refine iff_of_false (by simp) ?_
      omega

theorem clipText_natCast (text : String) (room : Nat) :
    clipText text room = String.ofList (clip text.toList room) := by
  rw [clipText, if_neg (by omega), Int.toNat_natCast]

/-! ### Printable texts -/

/-- A text of printable ASCII characters. -/
def IsPrintable (text : List Char) : Prop := ∀ c ∈ text, 0x20 ≤ c.toNat ∧ c.toNat < 0x7F

instance (text : List Char) : Decidable (IsPrintable text) := List.decidableBAll _ text

theorem IsPrintable.tail {c : Char} (printable : IsPrintable (c :: text)) : IsPrintable text :=
  fun other member => printable other (List.mem_cons_of_mem _ member)

theorem IsPrintable.clip (printable : IsPrintable text) (room : Nat) : IsPrintable (clip text room) :=
  fun c member => printable c ((clip_initial text room).subset member)

/-- No printable character is in the tables of those that do not fill one cell. -/
theorem widthTables_unprintable :
    ∀ range ∈ zeroWidth ++ doubleWidth, range.2 < 0x20 ∨ 0x7F ≤ range.1 := by
  decide +kernel

theorem cellWidth?_printable {c : Char} (low : 0x20 ≤ c.toNat) (high : c.toNat < 0x7F) :
    cellWidth? c = some 1 := by
  -- Both tables list ranges outside the printable ASCII characters only.
  have missing : ∀ table : CodePoints, (∀ range ∈ table, range.2 < 0x20 ∨ 0x7F ≤ range.1) →
      table.has c = false := by
    intro table apart
    rw [Bool.eq_false_iff, Ne, CodePoints.has_iff]
    rintro ⟨range, member, above, below⟩
    have outside := apart range member
    omega
  have narrow := missing zeroWidth fun range member =>
    widthTables_unprintable range (List.mem_append_left _ member)
  have single := missing doubleWidth fun range member =>
    widthTables_unprintable range (List.mem_append_right _ member)
  have control : ¬ (c.toNat < 0x20 ∨ 0x7F ≤ c.toNat ∧ c.toNat < 0xA0) := by omega
  have solid : c.toNat ≠ 0 := by omega
  simp [cellWidth?, solid, control, narrow, single]

theorem cellCount_printable (printable : IsPrintable text) : cellCount text = text.length := by
  induction text with
  | nil => rfl
  | cons c rest ih =>
    obtain ⟨low, high⟩ := printable c List.mem_cons_self
    have one : cellWidth c = 1 := by rw [cellWidth, cellWidth?_printable low high, Option.getD_some]
    rw [cellCount, one, ih printable.tail, List.length_cons, Nat.add_comm]

theorem shownCells?_printable (printable : IsPrintable text) (last : Option Char) :
    shownCells? text last = some text.length := by
  induction text generalizing last with
  | nil => rfl
  | cons c rest ih =>
    obtain ⟨low, high⟩ := printable c List.mem_cons_self
    -- Neither of the two characters that act on their neighbours is printable.
    have apart : c ≠ joiner := by
      rintro rfl
      exact absurd high (by decide)
    have plain : (c == emojiStyle) = false := by
      rw [beq_eq_false_iff_ne]
      rintro rfl
      exact absurd high (by decide)
    rw [shownCells?.eq_def]
    simp only [if_neg apart, plain, cellWidth?_printable low high, ih printable.tail,
      Option.bind_eq_bind, Option.bind_some, List.length_cons]
    rw [Nat.add_comm]
    rfl

theorem displayWidth_printable {text : String} (printable : IsPrintable text.toList) :
    displayWidth text = text.toList.length := by
  rw [displayWidth, shownCells?_printable printable]

theorem displayWidth_clipText_printable {text : String} (printable : IsPrintable text.toList)
    (room : Nat) : displayWidth (clipText text room) ≤ room := by
  have kept := printable.clip room
  have bound := cellCount_clip text.toList room
  rw [cellCount_printable kept] at bound
  rw [clipText_natCast, displayWidth_printable (by rwa [String.toList_ofList]), String.toList_ofList]
  exact bound

theorem clipText_eq_self_iff {text : String} (printable : IsPrintable text.toList) {room : Int}
    (natural : 0 ≤ room) : clipText text room = text ↔ (displayWidth text : Int) ≤ room := by
  obtain ⟨room, rfl⟩ := Int.eq_ofNat_of_zero_le natural
  have whole : clipText text room = text ↔ clip text.toList room = text.toList := by
    rw [clipText_natCast, ← String.toList_inj, String.toList_ofList]
  rw [whole, clip_eq_self_iff, cellCount_printable printable, displayWidth_printable printable,
    Int.ofNat_le]

/-! ### Single characters -/

theorem displayWidth_singleton (c : Char) : displayWidth (String.singleton c) ≤ 2 := by
  have bound := cellWidth_le c
  simp only [displayWidth, String.toList_singleton]
  by_cases joins : c = joiner
  · simp [shownCells?, joins]
  · -- Nothing stands before the character, so it widens nothing either.
    have alone : shownCells? [c] none = cellWidth? c := by
      cases width : cellWidth? c <;> simp [shownCells?, joins, width]
    rw [alone]
    unfold cellWidth at bound
    cases width : cellWidth? c with
    | none => simp [roughCells, cellWidth, width]
    | some cells => simpa [width] using bound

theorem clipText_singleton (c : Char) {room : Nat} (roomy : 2 ≤ room) :
    clipText (String.singleton c) room = String.singleton c := by
  have bound := cellWidth_le c
  have whole : clip [c] room = [c] := (clip_eq_self_iff [c] room).mpr (by simp only [cellCount]; omega)
  rw [clipText_natCast, String.toList_singleton, whole, ← String.toList_inj, String.toList_ofList,
    String.toList_singleton]

end KeyBindings.Text
