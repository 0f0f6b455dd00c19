import KeyBindings.Key.Limits
import KeyBindings.Text.CodePoint
import Mathlib.Algebra.GroupWithZero.Nat

/-!
# The ranges of key codes

The codes that have a place among the named keys are key codes, and so is the code of every character,
as long as the extended codes begin above the ordinary ones.
-/
namespace KeyBindings

theorem CodeFault.of_eq (code : Int) :
    of code = if code.natAbs < 10 ^ Text.digitLimit then .invalid code else .unwritable := by
  rw [of, Text.writeInteger?, Nat.pow_eq]
  split <;> simp

theorem CodeFault.of_small {code : Int} (small : code.natAbs < 10 ^ 5) : of code = .invalid code := by
  have short : ∀ digits, 5 ≤ digits → code.natAbs < 10 ^ digits := fun digits enough =>
    Nat.lt_of_lt_of_le small (Nat.pow_le_pow_right (by omega) enough)
  rw [of_eq, if_pos (short _ (by decide))]

namespace Limits

variable {limits : Limits}

theorem one_le_keyMin (usual : limits = {}) : 1 ≤ limits.keyMin := by
  rw [usual]
  decide

/-- A question about a number fails when it is no key code and too long to be named in the answer. -/
theorem isUnwritable_iff (limits : Limits) (code : Int) :
    limits.isUnwritable code = true ↔
      limits.isValid code = false ∧ ¬ code.natAbs < 10 ^ Text.digitLimit := by
  unfold isUnwritable classify isValid
  cases limits.classify? code with
  | some range => simp
  | none => by_cases short : code.natAbs < 10 ^ Text.digitLimit <;> simp [CodeFault.of_eq, short]

theorem isValid_of_mem_scanOrder (code : Int) (scanned : code ∈ limits.scanOrder) :
    limits.isValid code = true := by
  rw [scanOrder, List.mem_append] at scanned
  rw [isValid, classify?]
  rcases scanned with ordinary | pseudo
  · obtain ⟨n, bound, rfl⟩ := List.mem_map.mp ordinary
    rw [List.mem_range] at bound
    rw [if_pos (by unfold ordinaryMax; omega)]
    rfl
  · obtain ⟨n, bound, rfl⟩ := List.mem_map.mp pseudo
    rw [List.mem_range] at bound
    split
    · rfl
    · rw [if_pos (by omega)]
      rfl

theorem classify?_extendedCode (roomy : 127 < limits.keyMax) (c : Char) :
    limits.classify? (limits.extendedCode c) = some .extended := by
  have valid : c.toNat < 0xD800 ∨ 0xDFFF < c.toNat ∧ c.toNat < 0x110000 := c.valid
  have point : limits.extendedCode c - limits.keyMax = c.toNat := by
    simp only [extendedCode]
    omega
  have scalar : isScalar (limits.extendedCode c - limits.keyMax) = true := by
    rw [point, isScalar]
    simp only [Bool.or_eq_true, Bool.and_eq_true, decide_eq_true_eq]
    omega
  have above : limits.keyMax ≤ limits.extendedCode c := by omega
  rw [classify?, if_neg (by unfold ordinaryMax; omega), if_neg (by omega), if_pos ⟨above, scalar⟩]

theorem isValid_extendedCode (roomy : 127 < limits.keyMax) (c : Char) :
    limits.isValid (limits.extendedCode c) = true :=
  Option.isSome_of_eq_some (classify?_extendedCode roomy c)

theorem isValid_of_large {code : Int} (large : 10 ^ 8 ≤ code.natAbs) :
    ({} : Limits).isValid code = false := by
  have scalar : isScalar (code - 511) = false := by
    simp only [isScalar, Bool.or_eq_false_iff, Bool.and_eq_false_iff, decide_eq_false_iff_not]
    omega
  have outside : ¬ (511 ≤ code ∧ isScalar (code - 511) = true) := by simp [scalar]
  rw [isValid, classify?, if_neg (by unfold ordinaryMax; omega), if_neg (by dsimp only; omega),
    if_neg outside]
  rfl

/-- The place of a surrogate among the extended codes is empty. -/
theorem isValid_surrogate (roomy : 127 < limits.keyMax) (half : Text.Surrogate) :
    limits.isValid (limits.keyMax + half.unit) = false := by
  have low := half.low
  have high := half.high
  have point : limits.keyMax + half.unit - limits.keyMax = (half.unit : Int) := by omega
  have pair : isScalar (limits.keyMax + half.unit - limits.keyMax) = false := by
    rw [point, isScalar]
    simp only [Bool.or_eq_false_iff, Bool.and_eq_false_iff, decide_eq_false_iff_not]
    omega
  have outside : ¬ (limits.keyMax ≤ limits.keyMax + half.unit ∧
      isScalar (limits.keyMax + half.unit - limits.keyMax) = true) := by
    rw [pair]
    simp
  rw [isValid, classify?, if_neg (by unfold ordinaryMax; omega), if_neg (by omega), if_neg outside]
  rfl

theorem exists_char_of_extended {code : Int} (found : limits.classify? code = some .extended) :
    ∃ c : Char, code = limits.extendedCode c := by
  unfold classify? at found
  split at found
  · cases found
  · split at found
    · cases found
    · split at found
      next above =>
        have scalar := above.2
        simp only [isScalar, Bool.or_eq_true, Bool.and_eq_true, decide_eq_true_eq] at scalar
        -- Above the dense range a valid code is a scalar value moved by keyMax.
        have valid : (code - limits.keyMax).toNat.isValidChar := by
          unfold Nat.isValidChar
          omega
        have spelled : (Char.ofNatAux _ valid).toNat = (code - limits.keyMax).toNat := rfl
        refine ⟨Char.ofNatAux _ valid, ?_⟩
        rw [extendedCode, spelled]
        omega
      · cases found

end Limits

end KeyBindings
