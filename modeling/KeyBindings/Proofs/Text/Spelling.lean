import KeyBindings.Proofs.Text.Utf8

/-!
# Every character has one spelling

Octets that were read as a character are the octets that the character is written in. So a longer
way to write it, a surrogate or a value behind the last character is never read, and when a lead octet
stands before as many octets as it announces, they are one character or none.
-/
namespace KeyBindings.Text.Utf8

/-! ### The forms of a character -/

/-- Octets of a character and its code point. -/
inductive Spells : Octets → Nat → Prop where
  | one {a : Nat} : a < 0x80 → Spells [a] a
  | two {a b : Nat} : 0xC2 ≤ a ∧ a ≤ 0xDF → isSecond a b = true →
    Spells [a, b] ((a - 0xC0) * 0x40 + (b - 0x80))
  | three {a b c : Nat} : 0xE0 ≤ a ∧ a ≤ 0xEF → isSecond a b = true → isContinuation c = true →
    Spells [a, b, c] ((a - 0xE0) * 0x1000 + (b - 0x80) * 0x40 + (c - 0x80))
  | four {a b c d : Nat} : 0xF0 ≤ a ∧ a ≤ 0xF4 → isSecond a b = true → isContinuation c = true →
    isContinuation d = true →
    Spells [a, b, c, d] ((a - 0xF0) * 0x40000 + (b - 0x80) * 0x1000 + (c - 0x80) * 0x40 + (d - 0x80))

theorem bounds_of_isSecond {a b : Nat} (second : isSecond a b = true) :
    (0x80 ≤ b ∧ b ≤ 0xBF) ∧ (a = 0xE0 → 0xA0 ≤ b) ∧ (a = 0xED → b ≤ 0x9F) ∧
      (a = 0xF0 → 0x90 ≤ b) ∧ (a = 0xF4 → b ≤ 0x8F) := by
  unfold isSecond at second
  repeat' split at second
  all_goals simp only [Bool.and_eq_true, decide_eq_true_eq] at second
  all_goals omega

theorem bounds_of_isContinuation {c : Nat} (continues : isContinuation c = true) : 0x80 ≤ c ∧ c ≤ 0xBF := by
  simpa only [isContinuation, Bool.and_eq_true, decide_eq_true_eq] using continues

/-- Each form is the only one of its code point. -/
theorem Spells.encodePoint_eq {octets : Octets} {point : Nat} (spells : Spells octets point) :
    encodePoint point = octets := by
  unfold encodePoint
  cases spells with
  | one ascii => rw [if_pos ascii]
  | two lead second =>
    have bounds := bounds_of_isSecond second
    rw [if_neg (by omega), if_pos (by omega)]
    simp only [List.cons.injEq, and_true]
    omega
  | three lead second third =>
    have bounds := bounds_of_isSecond second
    have last := bounds_of_isContinuation third
    -- The bounds of the second octet keep the value above those of two octets.
    rw [if_neg (by omega), if_neg (by omega), if_pos (by omega)]
    simp only [List.cons.injEq, and_true]
    omega
  | four lead second third fourth =>
    have bounds := bounds_of_isSecond second
    have middle := bounds_of_isContinuation third
    have last := bounds_of_isContinuation fourth
    rw [if_neg (by omega), if_neg (by omega), if_neg (by omega)]
    simp only [List.cons.injEq, and_true]
    omega

/-- The bounds of the second octet leave out the surrogates and what lies behind the last character. -/
theorem Spells.isValidChar {octets : Octets} {point : Nat} (spells : Spells octets point) :
    point.isValidChar := by
  unfold Nat.isValidChar
  cases spells with
  | one ascii => omega
  | two lead second =>
    have bounds := bounds_of_isSecond second
    omega
  | three lead second third =>
    have bounds := bounds_of_isSecond second
    have last := bounds_of_isContinuation third
    omega
  | four lead second third fourth =>
    have bounds := bounds_of_isSecond second
    have middle := bounds_of_isContinuation third
    have last := bounds_of_isContinuation fourth
    omega

/-! ### Reading -/

theorem lead_of_sequenceLength (lead : Int) :
    (sequenceLength lead = 2 → 0xC2 ≤ lead ∧ lead ≤ 0xDF) ∧
    (sequenceLength lead = 3 → 0xE0 ≤ lead ∧ lead ≤ 0xEF) ∧
    (sequenceLength lead ≠ 0 → sequenceLength lead ≠ 1 → sequenceLength lead ≠ 2 →
      sequenceLength lead ≠ 3 → 0xF0 ≤ lead ∧ lead ≤ 0xF4) := by
  unfold sequenceLength
  repeat' split
  all_goals omega

theorem head_cons_ne_done (lead : Nat) (octets : Octets) : head (lead :: octets) ≠ .done := by
  intro done
  unfold head at done
  repeat' split at done
  all_goals simp_all

theorem spells_of_head {octets rest : Octets} {first : Char} (read : head octets = .char first rest) :
    ∃ taken point, Spells taken point ∧ octets = taken ++ rest ∧ first = Char.ofNat point := by
  cases octets with
  | nil => cases read
  | cons a more =>
    by_cases ascii : a < 0x80
    · rw [head_one more ascii] at read
      obtain ⟨rfl, rfl⟩ := Head.char.inj read
      exact ⟨[a], a, .one ascii, rfl, rfl⟩
    · unfold head at read
      dsimp only at read
      rw [if_neg ascii] at read
      obtain ⟨two, three, four⟩ := lead_of_sequenceLength a
      -- The lead octet says which of the three longer forms it is.
      split at read
      · cases read
      · cases read
      · cases read
      next b more announced =>
        split at read
        next second =>
          obtain ⟨rfl, rfl⟩ := Head.char.inj read
          have lead := two announced
          exact ⟨[a, b], _, .two (by omega) second, rfl, rfl⟩
        · cases read
      next b more announced =>
        split at read
        next second =>
          split at read
          · cases read
          next c more =>
            split at read
            next third =>
              obtain ⟨rfl, rfl⟩ := Head.char.inj read
              have lead := three announced
              exact ⟨[a, b, c], _, .three (by omega) second third, rfl, rfl⟩
            · cases read
        · cases read
      next b more not0 not1 not2 not3 =>
        split at read
        next second =>
          split at read
          · cases read
          next c more =>
            split at read
            next third =>
              split at read
              · cases read
              next d more =>
                split at read
                next fourth =>
                  obtain ⟨rfl, rfl⟩ := Head.char.inj read
                  have lead := four not0 not1 not2 not3
                  exact ⟨[a, b, c, d], _, .four (by omega) second third fourth, rfl, rfl⟩
                · cases read
            · cases read
        · cases read

theorem eq_encodeChar_of_head {octets rest : Octets} {first : Char}
    (read : head octets = .char first rest) : octets = encodeChar first ++ rest := by
  obtain ⟨taken, point, spells, parts, rfl⟩ := spells_of_head read
  have value : (Char.ofNat point).toNat = point := by
    rw [show Char.ofNat point = Char.ofNatAux point spells.isValidChar from dif_pos spells.isValidChar]
    rfl
  rw [encodeChar, value, spells.encodePoint_eq, parts]

/-- Octets are read as a character exactly when the character is written so. -/
theorem char?_eq_some_iff (octets : Octets) (whole : Char) :
    char? octets = some whole ↔ octets = encodeChar whole := by
  constructor
  · intro read
    unfold char? at read
    split at read
    next first found =>
      obtain rfl := Option.some.inj read
      rw [eq_encodeChar_of_head found, List.append_nil]
    · cases read
  · rintro rfl
    exact char?_encodeChar whole

/-! ### The library's octets -/

theorem encodeChar_eq_utf8EncodeChar (c : Char) :
    encodeChar c = (String.utf8EncodeChar c).map UInt8.toNat := by
  have scalar : c.toNat < 0x110000 := by
    have valid : c.toNat < 0xD800 ∨ 0xDFFF < c.toNat ∧ c.toNat < 0x110000 := c.valid
    omega
  have value : c.val.toNat = c.toNat := rfl
  unfold encodeChar encodePoint String.utf8EncodeChar
  simp only [value]
  repeat' split
  -- An octet is made up by sums here and by the low bits there.
  all_goals simp only [List.map_cons, List.map_nil, UInt8.toNat_ofNat', List.cons.injEq, and_true]
  all_goals omega

/-! ### A lead octet with what it announces -/

/-- A character that starts with an octet above ASCII is none of ASCII itself, and its first octet
announces the others. -/
theorem announced_of_encodeChar {lead : Nat} {octets rest : Octets} {whole : Char} (wide : 0x80 ≤ lead)
    (spelled : lead :: octets = encodeChar whole ++ rest) :
    0x80 ≤ whole.toNat ∧ ∃ others, octets = others ++ rest ∧
      sequenceLength lead = others.length + 1 := by
  -- A character of ASCII would be its own first octet.
  have above : 0x80 ≤ whole.toNat := by
    by_cases ascii : whole.toNat < 0x80
    · rw [encodeChar, encodePoint, if_pos ascii] at spelled
      obtain ⟨same, -⟩ := List.cons.inj spelled
      omega
    · exact Nat.not_lt.mp ascii
  have scalar : whole.toNat < 0x110000 := by
    have valid : whole.toNat < 0xD800 ∨ 0xDFFF < whole.toNat ∧ whole.toNat < 0x110000 := whole.valid
    omega
  obtain ⟨first, others, written, -, -, -, announced, -⟩ :=
    encodePoint_wide whole.toNat above scalar
  rw [encodeChar, written, List.cons_append] at spelled
  obtain ⟨rfl, same⟩ := List.cons.inj spelled
  exact ⟨above, others, same, announced⟩

/-- As many octets as a lead octet announces are one character, or they are refused. No text of
another length comes of them. -/
theorem decodeChars_announced {lead : Nat} {octets : Octets} (wide : 0x80 ≤ lead)
    (announced : sequenceLength lead = octets.length + 1) :
    (∃ whole, decodeChars (lead :: octets) = .ok [whole] ∧ char? (lead :: octets) = some whole) ∨
      ∃ error, decodeChars (lead :: octets) = .error error ∧ char? (lead :: octets) = none := by
  rw [decodeChars, decodeFrom, char?]
  split
  next done => exact absurd done (head_cons_ne_done lead octets)
  next whole rest read =>
    -- The character takes all that was announced, so nothing is left behind it.
    obtain ⟨-, others, parts, enough⟩ := announced_of_encodeChar wide (eq_encodeChar_of_head read)
    have nothing : rest = [] := by
      have lengths := congrArg List.length parts
      rw [List.length_append] at lengths
      exact List.eq_nil_of_length_eq_zero (by omega)
    subst nothing
    refine .inl ⟨whole, ?_, by rw [read]⟩
    rw [decodeFrom]
    rfl
  next bad => exact .inr ⟨_, rfl, by rw [bad]⟩

end KeyBindings.Text.Utf8
