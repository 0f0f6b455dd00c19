import KeyBindings.Command.Typed
import KeyBindings.Proofs.Command.Grammar
import KeyBindings.Proofs.Key.Keystroke
import Mathlib.Data.List.Infix

/-!
# Typed commands are read back

Commands that are typed one after the other are read one by one as they were meant, each from its own
units. The digits of a count end only with the key behind them, so a command without a register
cannot have a key that would continue its count or announce a register.
-/
namespace KeyBindings

namespace Command

variable {limits : Limits} {units : Script} {code : Int}

/-! ### Counts -/

/-- A key continues a count by one decimal place, or ends it. -/
theorem readCount_key (count : Nat) (key : IsKey limits units code) (script : Script) :
    readCount limits count (units ++ script) =
      if continuesCount count code then
        { readCount limits (count * 10 + (code - 48).toNat) script with
          keys := code :: (readCount limits (count * 10 + (code - 48).toNat) script).keys }
      else ⟨count, some code, [code], script⟩ := by
  rw [readCount]
  split
  next rest dry =>
    rw [key.decoded] at dry
    cases dry
  next found rest decoded =>
    rw [key.decoded] at decoded
    obtain ⟨same, rfl⟩ := Prod.mk.inj decoded
    obtain rfl := Option.some.inj same
    rfl

theorem readCount_digit (count digit : Nat) (script : Script) (small : digit < 10)
    (noZero : count = 0 → digit ≠ 0) :
    readCount limits count (TypedCommand.charUnits [Nat.digitChar digit] ++ script) =
      { readCount limits (count * 10 + digit) script with
        keys := ((Nat.digitChar digit).toNat : Int) ::
          (readCount limits (count * 10 + digit) script).keys } := by
  -- A digit character is one unit below any lead byte, so it is a key of its own.
  have spelled := Nat.toNat_digitChar_of_lt_ten small
  have key : IsKey limits [some ((Nat.digitChar digit).toNat : Int)] (Nat.digitChar digit).toNat :=
    .of_single _ (by omega) (.inr (by omega))
  have continues : continuesCount count (Nat.digitChar digit).toNat = true := by
    simp only [continuesCount, Bool.or_eq_true, Bool.and_eq_true, decide_eq_true_eq]
    omega
  have value : (((Nat.digitChar digit).toNat : Int) - 48).toNat = digit := by omega
  have read := readCount_key count key script
  rw [if_pos continues, value] at read
  exact read

/-- The digits of a count are read as that count, whatever is typed after them. -/
theorem readCount_toDigits (count : Nat) (positive : 1 ≤ count) (script : Script) :
    readCount limits 0 (TypedCommand.charUnits (Nat.toDigits 10 count) ++ script) =
      { readCount limits count script with
        keys := (Nat.toDigits 10 count).map (fun digit => (digit.toNat : Int)) ++
          (readCount limits count script).keys } := by
  -- The last digit is read behind the digits of a tenth of the count.
  induction count using Nat.strongRecOn generalizing script with
  | ind count ih =>
    by_cases small : count < 10
    · rw [Nat.toDigits_of_lt_base small, readCount_digit 0 count script small (by omega),
        Nat.zero_mul, Nat.zero_add]
      rfl
    · have value : count / 10 * 10 + count % 10 = count := by omega
      have front := ih (count / 10) (by omega) (by omega)
        (TypedCommand.charUnits [Nat.digitChar (count % 10)] ++ script)
      have last := @readCount_digit limits (count / 10) (count % 10) script (by omega) (by omega)
      rw [value] at last
      rw [last] at front
      rw [Nat.toDigits_of_base_le (by decide) (by omega)]
      simpa [TypedCommand.charUnits] using front

/-! ### The keys behind a count -/

variable {lookup : Int → Option Action} {script rest : Script} {count : Nat} {keys : List Int}

theorem readFull_plain (start : readCount limits 0 script = ⟨count, some code, keys, rest⟩)
    (plain : code ≠ registerMark) :
    readFull limits lookup script =
      ⟨some ⟨meaningOf lookup code, (max count 1 : Nat), 0, code⟩, keys, rest⟩ := by
  have unmarked : ¬ some code = some registerMark := fun same => plain (Option.some.inj same)
  simp only [readFull, start, if_neg unmarked, finish]
  rfl

/-- Behind the mark of a register stand its name and the last key. -/
theorem readFull_register {nameUnits : Script} {name : Int} (named : IsKey limits nameUnits name)
    (key : IsKey limits units code)
    (start : readCount limits 0 script =
      ⟨count, some registerMark, keys, nameUnits ++ (units ++ rest)⟩) :
    readFull limits lookup script =
      ⟨some ⟨meaningOf lookup code, (max count 1 : Nat), registerOf name, code⟩,
        keys ++ [name, code], rest⟩ := by
  simp only [readFull, start, if_true, named.decoded, key.decoded, finish]
  rfl

end Command

namespace TypedCommand

open Command

/-! ### One command -/

/-- A command that cannot be taken for another one: its count is not zero, its register exists, its
key is no resize, and without a register the key neither continues the count nor announces one. -/
structure Unambiguous (typed : TypedCommand) : Prop where
  count : ∀ count, typed.count = some count → 1 ≤ count
  register : ∀ register, typed.register = some register → 1 ≤ register ∧ register ≤ 35
  pseudo : ∀ value, typed.key = .pseudo value → 257 ≤ value ∧ value < 511 ∧ value ≠ KeyCode.resize
  bare : typed.register = none → ∀ c, typed.key = .char c →
    ¬ ('1' ≤ c ∧ c ≤ '9') ∧ c ≠ '"' ∧ (c = '0' → typed.count = none)

theorem registerOf_registerChar : ∀ register < 36, 1 ≤ register →
    (registerChar register).toNat < 0x80 ∧ registerOf (registerChar register).toNat = register := by
  decide

variable {typed : TypedCommand}

theorem Unambiguous.isKey (unambiguous : typed.Unambiguous) :
    IsKey {} typed.key.units (typed.key.code {}) :=
  typed.key.isKey (by decide) fun value same => (unambiguous.pseudo value same).1

/-- Without a register the key of a command ends its count and announces no register. -/
theorem Unambiguous.ends (unambiguous : typed.Unambiguous) (bare : typed.register = none) :
    continuesCount (typed.count.getD 0) (typed.key.code {}) = false ∧
      typed.key.code {} ≠ registerMark := by
  simp only [continuesCount, registerMark, Bool.or_eq_false_iff, Bool.and_eq_false_iff,
    decide_eq_false_iff_not]
  cases key : typed.key with
  | pseudo value =>
    have bounds := unambiguous.pseudo value key
    simp only [Keystroke.code]
    omega
  | char c =>
    obtain ⟨noDigit, noMark, zero⟩ := unambiguous.bare bare c key
    rw [Char.le_def, Char.le_def, UInt32.le_iff_toNat_le, UInt32.le_iff_toNat_le] at noDigit
    have digit : ¬ (49 ≤ c.toNat ∧ c.toNat ≤ 57) := noDigit
    have mark : c.toNat ≠ 34 := fun same => noMark (Char.toNat_inj.mp same)
    have leading : c.toNat = 48 → typed.count.getD 0 = 0 := fun same => by
      rw [zero (Char.toNat_inj.mp same), Option.getD_none]
    -- A character that is no ASCII character has a code above all digits and the mark.
    simp only [Keystroke.code, Limits.extendedCode]
    split <;> omega

/-- The digits of a count, if there is one, end with a key that does not continue them. -/
theorem readCount_countUnits {limits : Limits} {units : Script} {code : Int} (count : Option Nat)
    (positive : ∀ value, count = some value → 1 ≤ value) (key : IsKey limits units code)
    (stops : continuesCount (count.getD 0) code = false) (script : Script) :
    ∃ keys, readCount limits 0 (countUnits count ++ (units ++ script)) =
      ⟨count.getD 0, some code, keys, script⟩ := by
  have last := readCount_key (count.getD 0) key script
  rw [stops, if_neg Bool.false_ne_true] at last
  cases count with
  | none => exact ⟨[code], last⟩
  | some count =>
    have read := @readCount_toDigits limits count (positive count rfl) (units ++ script)
    rw [Option.getD_some] at last
    rw [last] at read
    exact ⟨_, read⟩

theorem Unambiguous.max_count (unambiguous : typed.Unambiguous) :
    max (typed.count.getD 0) 1 = typed.count.getD 1 := by
  cases given : typed.count with
  | none => rfl
  | some count =>
    have positive := unambiguous.count count given
    simp only [Option.getD_some]
    omega

/-- A typed command is read as it was meant, from its own units, whatever is typed after it. -/
theorem read_units (unambiguous : typed.Unambiguous) (lookup : Int → Option Action) (script : Script) :
    (Command.read {} lookup true (typed.units ++ script)).command = some (typed.command {} lookup) ∧
      (Command.read {} lookup true (typed.units ++ script)).rest = script := by
  have key := unambiguous.isKey
  rw [Command.read, if_pos rfl, command]
  cases chosen : typed.register with
  | none =>
    have whole : typed.units ++ script = countUnits typed.count ++ (typed.key.units ++ script) := by
      simp [units, chosen, registerUnits]
    -- The key ends the count and is the last key.
    obtain ⟨stops, plain⟩ := unambiguous.ends chosen
    obtain ⟨keys, start⟩ := readCount_countUnits typed.count unambiguous.count key stops script
    rw [← whole] at start
    rw [readFull_plain start plain, unambiguous.max_count]
    exact ⟨rfl, rfl⟩
  | some register =>
    have whole : typed.units ++ script = countUnits typed.count ++ ([some registerMark] ++
        (charUnits [registerChar register] ++ (typed.key.units ++ script))) := by
      simp [units, chosen, registerUnits]
    have mark : IsKey {} [some registerMark] registerMark := .of_single _ (by decide) (.inr (by decide))
    have bounds := unambiguous.register register chosen
    obtain ⟨ascii, value⟩ := registerOf_registerChar register (by omega) bounds.1
    have name : IsKey {} (charUnits [registerChar register]) (registerChar register).toNat :=
      .of_single _ (by omega) (.inr (by omega))
    -- The mark ends the count; behind it stand the name of the register and the last key.
    obtain ⟨keys, start⟩ := readCount_countUnits typed.count unambiguous.count mark rfl
      (charUnits [registerChar register] ++ (typed.key.units ++ script))
    rw [← whole] at start
    rw [readFull_register name key start, unambiguous.max_count, value]
    exact ⟨rfl, rfl⟩

/-! ### Commands one after the other -/

/-- No key but a resize itself has the code of a resize, so the key is looked up. -/
theorem Unambiguous.meaningOf_eq (unambiguous : typed.Unambiguous) (lookup : Int → Option Action) :
    meaningOf lookup (typed.key.code {}) =
      (lookup (typed.key.code {})).elim .unbound .action := by
  have other : typed.key.code {} ≠ KeyCode.resize := by
    cases key : typed.key with
    | pseudo value => exact (unambiguous.pseudo value key).2.2
    | char c =>
      simp only [Keystroke.code, Limits.extendedCode, KeyCode.resize]
      split <;> omega
  rw [meaningOf, if_neg other]
  cases lookup (typed.key.code {}) <;> rfl

/-- The first of several readings takes the units of the first command. -/
theorem readAll_typed (unambiguous : typed.Unambiguous) (lookup : Int → Option Action) (script : Script) :
    readAll {} lookup true (typed.units ++ script) =
      Command.read {} lookup true (typed.units ++ script) :: readAll {} lookup true script := by
  have some : typed.units ++ script ≠ [] := by
    simp [units, unambiguous.isKey.nonempty]
  rw [readAll, dif_neg some]
  simp only [(read_units unambiguous lookup script).2]

/-- Commands that are typed one after the other are read one by one: each with its count, or once
without one, with its register, or register 0, and with the action of its key. Every reading leaves
the units of the commands that are still to come, and behind the last command there is none. -/
theorem readAll_units (lookup : Int → Option Action) (commands : List TypedCommand)
    (unambiguous : ∀ typed ∈ commands, typed.Unambiguous) :
    let script := fun commands : List TypedCommand => commands.flatMap units
    let readings := readAll {} lookup true (script commands)
    readings.map Reading.command = commands.map (fun typed => some
      { meaning := (lookup (typed.key.code {})).elim .unbound .action
        count := typed.count.getD 1
        register := typed.register.getD 0
        code := typed.key.code {} }) ∧
    readings.map Reading.rest = commands.tails.tail.map script ∧
    (Command.read {} lookup true []).command = none := by
  intro script readings
  have dry : (Command.read {} lookup true []).command = none := by
    simp [Command.read, readFull, readCount, decodeKey, finish]
  rw [← and_assoc]
  refine ⟨?_, dry⟩
  simp only [readings, script]
  -- The first reading leaves what the others are read from, so the induction is on the commands.
  induction commands with
  | nil => simp [readAll]
  | cons typed rest ih =>
    have first := unambiguous typed List.mem_cons_self
    obtain ⟨commands, rests⟩ := ih fun other member => unambiguous other (List.mem_cons_of_mem _ member)
    obtain ⟨command, left⟩ := read_units first lookup (rest.flatMap units)
    -- What the readings leave are the suffixes of the commands, from the second one on.
    have suffixes : rest.tails = rest :: rest.tails.tail := by cases rest <;> simp
    rw [List.flatMap_cons, readAll_typed first]
    constructor
    · rw [List.map_cons, command, TypedCommand.command, first.meaningOf_eq, commands, List.map_cons]
    · rw [List.map_cons, left, rests, List.tails_cons, List.tail_cons, suffixes, List.map_cons]
      rfl

/-- A count with a zero and a register before a digit, a lone zero, a character of two octets and an
arrow key. -/
theorem readAll_units_mixed :
    let commands : List TypedCommand := [⟨some 10, some 35, .char '7'⟩, ⟨none, none, .char '0'⟩,
      ⟨some 3, none, .char 'é'⟩, ⟨none, some 1, .pseudo 259⟩]
    (∀ typed ∈ commands, typed.Unambiguous) ∧
      (readAll {} (fun _ => none) true (commands.flatMap units)).map Reading.command =
        [some ⟨.unbound, 10, 35, 55⟩, some ⟨.unbound, 1, 0, 48⟩, some ⟨.unbound, 3, 0, 744⟩,
          some ⟨.unbound, 1, 1, 259⟩] := by
  intro commands
  have unambiguous : ∀ typed ∈ commands, typed.Unambiguous := by
    intro typed member
    simp only [commands, List.mem_cons, List.not_mem_nil, or_false] at member
    rcases member with rfl | rfl | rfl | rfl
    all_goals constructor <;> simp [KeyCode.resize]
  exact ⟨unambiguous, (readAll_units (fun _ => none) commands unambiguous).1⟩

end TypedCommand

end KeyBindings
