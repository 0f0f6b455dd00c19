import KeyBindings.Text.Utf8

/-!
# Reading what was written in UTF-8

Every character is read back from its octets, whatever follows them, and so is a whole text.
-/
namespace KeyBindings.Text.Utf8

variable {a b c d : Nat} (rest : Octets)

/-! ### Sequences of each length -/

theorem head_one (ascii : a < 0x80) : head (a :: rest) = .char (Char.ofNat a) rest := by
  unfold head
  simp only [ascii, if_true]

theorem head_two (lead : 0xC2 ≤ a ∧ a ≤ 0xDF) (second : isSecond a b = true) :
    head (a :: b :: rest) = .char (Char.ofNat ((a - 0xC0) * 0x40 + (b - 0x80))) rest := by
  have wide : ¬ a < 0x80 := by omega
  have length : sequenceLength a = 2 := by
    unfold sequenceLength
    rw [if_neg (by omega), if_pos (by omega)]
  unfold head
  simp only [wide, if_false, length, second, if_true]

theorem head_three (lead : 0xE0 ≤ a ∧ a ≤ 0xEF) (second : isSecond a b = true)
    (third : isContinuation c = true) :
    head (a :: b :: c :: rest) =
      .char (Char.ofNat ((a - 0xE0) * 0x1000 + (b - 0x80) * 0x40 + (c - 0x80))) rest := by
  have wide : ¬ a < 0x80 := by omega
  have length : sequenceLength a = 3 := by
    unfold sequenceLength
    rw [if_neg (by omega), if_neg (by omega), if_pos (by omega)]
  unfold head
  simp only [wide, if_false, length, second, third, if_true]

theorem head_four (lead : 0xF0 ≤ a ∧ a ≤ 0xF4) (second : isSecond a b = true)
    (third : isContinuation c = true) (fourth : isContinuation d = true) :
    head (a :: b :: c :: d :: rest) =
      .char (Char.ofNat ((a - 0xF0) * 0x40000 + (b - 0x80) * 0x1000 + (c - 0x80) * 0x40 +
        (d - 0x80))) rest := by
  have wide : ¬ a < 0x80 := by omega
  have length : sequenceLength a = 4 := by
    unfold sequenceLength
    rw [if_neg (by omega), if_neg (by omega), if_neg (by omega), if_pos (by omega)]
  unfold head
  simp only [wide, if_false, length, second, third, fourth, if_true]

/-! ### Characters and texts -/

theorem isContinuation_low (point : Nat) : isContinuation (0x80 + point % 0x40) = true := by
  simp only [isContinuation, Bool.and_eq_true, decide_eq_true_eq]
  omega

/-- The second octet has bounds of its own behind four lead octets. They leave out values that a
shorter sequence has, surrogates, and what lies behind the last scalar value. -/
theorem isSecond_of_bounds (lead octet : Nat) (continues : 0x80 ≤ octet ∧ octet ≤ 0xBF)
    (short : lead = 0xE0 → 0xA0 ≤ octet) (surrogate : lead = 0xED → octet ≤ 0x9F)
    (short' : lead = 0xF0 → 0x90 ≤ octet) (last : lead = 0xF4 → octet ≤ 0x8F) :
    isSecond lead octet = true := by
  unfold isSecond
  repeat' split
  all_goals simp only [Bool.and_eq_true, decide_eq_true_eq]
  all_goals omega

theorem head_encode_two (point : Nat) (wide : 0x80 ≤ point) (small : point < 0x800) :
    head ([0xC0 + point / 0x40, 0x80 + point % 0x40] ++ rest) = .char (Char.ofNat point) rest := by
  have second : isSecond (0xC0 + point / 0x40) (0x80 + point % 0x40) = true :=
    isSecond_of_bounds _ _ (by omega) (by omega) (by omega) (by omega) (by omega)
  have value : (0xC0 + point / 0x40 - 0xC0) * 0x40 + (0x80 + point % 0x40 - 0x80) = point := by
    omega
  have read := head_two rest (by omega) second
  rw [value] at read
  exact read

theorem head_encode_three (point : Nat) (wide : 0x800 ≤ point)
    (scalar : point < 0xD800 ∨ 0xDFFF < point ∧ point < 0x10000) :
    head ([0xE0 + point / 0x1000, 0x80 + point / 0x40 % 0x40, 0x80 + point % 0x40] ++ rest) =
      .char (Char.ofNat point) rest := by
  have second : isSecond (0xE0 + point / 0x1000) (0x80 + point / 0x40 % 0x40) = true :=
    isSecond_of_bounds _ _ (by omega) (by omega) (by omega) (by omega) (by omega)
  have value : (0xE0 + point / 0x1000 - 0xE0) * 0x1000 +
      (0x80 + point / 0x40 % 0x40 - 0x80) * 0x40 + (0x80 + point % 0x40 - 0x80) = point := by
    omega
  have read := head_three rest (by omega) second (isContinuation_low point)
  rw [value] at read
  exact read

theorem head_encode_four (point : Nat) (wide : 0x10000 ≤ point) (scalar : point < 0x110000) :
    head ([0xF0 + point / 0x40000, 0x80 + point / 0x1000 % 0x40, 0x80 + point / 0x40 % 0x40,
      0x80 + point % 0x40] ++ rest) = .char (Char.ofNat point) rest := by
  have second : isSecond (0xF0 + point / 0x40000) (0x80 + point / 0x1000 % 0x40) = true :=
    isSecond_of_bounds _ _ (by omega) (by omega) (by omega) (by omega) (by omega)
  have value : (0xF0 + point / 0x40000 - 0xF0) * 0x40000 +
      (0x80 + point / 0x1000 % 0x40 - 0x80) * 0x1000 +
      (0x80 + point / 0x40 % 0x40 - 0x80) * 0x40 + (0x80 + point % 0x40 - 0x80) = point := by
    omega
  have read := head_four rest (by omega) second (isContinuation_low (point / 0x40))
    (isContinuation_low point)
  rw [value] at read
  exact read

theorem head_encodePoint (point : Nat)
    (scalar : point < 0xD800 ∨ 0xDFFF < point ∧ point < 0x110000) :
    head (encodePoint point ++ rest) = .char (Char.ofNat point) rest := by
  unfold encodePoint
  split
  next ascii => exact head_one rest ascii
  · split
    next wide small => exact head_encode_two rest point (by omega) small
    · split
      next wide small => exact head_encode_three rest point (by omega) (by omega)
      next wide => exact head_encode_four rest point (by omega) (by omega)

theorem head_encodeChar (c : Char) : head (encodeChar c ++ rest) = .char c rest := by
  have read := head_encodePoint rest c.toNat c.valid
  rwa [Char.ofNat_toNat] at read

/-- A character that is no ASCII character has a lead octet that says how many octets follow. -/
theorem encodePoint_wide (point : Nat) (wide : 0x80 ≤ point) (scalar : point < 0x110000) :
    ∃ lead octets, encodePoint point = lead :: octets ∧ 0x80 ≤ lead ∧ lead ≤ 0xF4 ∧
      1 ≤ octets.length ∧ sequenceLength lead = octets.length + 1 ∧ ∀ octet ∈ octets, octet < 0x100 := by
  unfold encodePoint
  rw [if_neg (by omega)]
  -- The number of octets decides between which bounds the lead octet lies.
  split
  next two => exact ⟨_, _, rfl, by omega, by omega, by simp, by grind [sequenceLength], by grind⟩
  · split
    next three => exact ⟨_, _, rfl, by omega, by omega, by simp, by grind [sequenceLength], by grind⟩
    next four => exact ⟨_, _, rfl, by omega, by omega, by simp, by grind [sequenceLength], by grind⟩

theorem char?_encodeChar (c : Char) : char? (encodeChar c) = some c := by
  have read := head_encodeChar [] c
  rw [List.append_nil] at read
  rw [char?, read]

theorem decodeLossyChars_flatMap (text : List Char) :
    decodeLossyChars (text.flatMap encodeChar) = text := by
  induction text with
  | nil =>
    rw [decodeLossyChars]
    rfl
  | cons c text ih =>
    have read := head_encodeChar (text.flatMap encodeChar) c
    rw [List.flatMap_cons, decodeLossyChars]
    split
    next done =>
      rw [read] at done
      cases done
    next first rest found =>
      rw [read] at found
      obtain ⟨rfl, rfl⟩ := Head.char.inj found
      rw [ih]
    next bad =>
      rw [read] at bad
      cases bad

theorem decodeLossyChars_encode (text : String) : decodeLossyChars (encode text) = text.toList :=
  decodeLossyChars_flatMap text.toList

end KeyBindings.Text.Utf8
