import KeyBindings.Command
import KeyBindings.Proofs.Key.Decoding

/-!
# The keys of a command

A command takes the digits of its count, the mark and the name of its register, and a last key.
The last key alone decides what the command means, so a resize that the terminal reports as the
last key is never lost; one that stands where a register is named is taken for a name that names
none.
-/
namespace KeyBindings.Command

variable {limits : Limits} {lookup : Int → Option Action}

/-! ### Parts of a command -/

/-- Codes of digits. -/
def AreDigits (keys : List (Script × Int)) : Prop := ∀ key ∈ keys, 48 ≤ key.2 ∧ key.2 ≤ 57

theorem digit_of_continuesCount (count : Nat) (code : Int)
    (continues : continuesCount count code = true) : 48 ≤ code ∧ code ≤ 57 := by
  simp only [continuesCount, Bool.or_eq_true, Bool.and_eq_true, decide_eq_true_eq] at continues
  omega

/-- Before the key after a count stand the digits of the count. -/
theorem readCount_cut (count : Nat) (script : Script) (next : Int)
    (found : (readCount limits count script).next = some next) :
    ∃ digits units, AreDigits digits ∧
      Cut limits script (digits ++ [(units, next)]) (readCount limits count script).rest ∧
      (readCount limits count script).keys = digits.map Prod.snd ++ [next] := by
  rw [readCount] at found ⊢
  split at found
  · cases found
  next code rest decoded =>
    obtain ⟨units, first⟩ := Cut.of_decodeKey script rest code decoded
    have smaller := decodeKey_some_length limits script rest code decoded
    split at found
    -- Each digit takes at least one unit, so the count is read from a shorter script.
    next continues =>
      obtain ⟨digits, last, areDigits, tail, keys⟩ := readCount_cut _ rest next found
      refine ⟨(units, code) :: digits, last, ?_, ?_, ?_⟩
      · intro key member
        rcases List.mem_cons.mp member with rfl | later
        · exact digit_of_continuesCount count code continues
        · exact areDigits key later
      · rw [if_pos continues]
        exact first.append tail
      · rw [if_pos continues]
        simp only [keys, List.map_cons, List.cons_append]
    next ends =>
      obtain rfl : code = next := Option.some.inj found
      rw [if_neg ends]
      exact ⟨[], units, by simp [AreDigits], first, rfl⟩
termination_by script.length
decreasing_by exact smaller

/-- The keys that choose a register, and the register that they choose. -/
inductive Chooses : List (Script × Int) → Nat → Prop where
  | none : Chooses [] 0
  | some (mark name : Script) (code : Int) :
    Chooses [(mark, registerMark), (name, code)] (registerOf code)

/-- The keys of a command that was read: digits, a choice of register, and the key that decides. -/
theorem read_cut (full : Bool) (script : Script) (command : Command)
    (read : (read limits lookup full script).command = some command) :
    ∃ digits choice units register, AreDigits digits ∧ Chooses choice register ∧
      Cut limits script (digits ++ choice ++ [(units, command.code)])
        (Command.read limits lookup full script).rest ∧
      (Command.read limits lookup full script).keys =
        digits.map Prod.snd ++ choice.map Prod.snd ++ [command.code] ∧
      command.register = register ∧ command.meaning = meaningOf lookup command.code := by
  cases full with
  | false =>
    simp only [Command.read, readPlain, finish] at read ⊢
    obtain ⟨code, decoded, rfl⟩ := Option.map_eq_some_iff.mp read
    obtain ⟨units, cut⟩ := Cut.of_decodeKey script _ code (Prod.ext decoded rfl)
    exact ⟨[], [], units, 0, by simp [AreDigits], .none, cut, by simp [decoded], rfl, rfl⟩
  | true =>
    simp only [Command.read, readFull, if_true] at read ⊢
    split at read
    -- Three cuts one behind the other: the count with the mark, the name, and the last key.
    next marked =>
      obtain ⟨digits, mark, areDigits, start, keys⟩ := readCount_cut 0 script registerMark marked
      split at read
      · cases read
      next name rest named =>
        obtain ⟨code, decoded, rfl⟩ := Option.map_eq_some_iff.mp read
        obtain ⟨nameUnits, second⟩ := Cut.of_decodeKey _ rest name named
        obtain ⟨units, last⟩ := Cut.of_decodeKey rest _ code (Prod.ext decoded rfl)
        refine ⟨digits, [(mark, registerMark), (nameUnits, name)], units, registerOf name,
          areDigits, .some mark nameUnits name, ?_, ?_, rfl, rfl⟩
        · simpa [marked, finish, List.append_assoc] using (start.append second).append last
        · simp [marked, finish, keys, decoded]
    next unmarked =>
      obtain ⟨code, found, rfl⟩ := Option.map_eq_some_iff.mp read
      obtain ⟨digits, units, areDigits, cut, keys⟩ := readCount_cut 0 script code found
      refine ⟨digits, [], units, 0, areDigits, .none, ?_, ?_, rfl, rfl⟩
      · simpa [unmarked, finish] using cut
      · simp [unmarked, finish, keys]

/-! ### Resizes -/

theorem meaningOf_eq_resize (code : Int) :
    meaningOf lookup code = .resize ↔ code = KeyCode.resize := by
  unfold meaningOf
  split
  next same => simp [same]
  next differ =>
    cases lookup code <;> simp [differ]

theorem registerOf_resize : registerOf KeyCode.resize = 0 := rfl

theorem AreDigits.codes {digits : List (Script × Int)} (areDigits : AreDigits digits) :
    ∀ code ∈ digits.map Prod.snd, 48 ≤ code ∧ code ≤ 57 := by
  intro code member
  obtain ⟨key, inDigits, rfl⟩ := List.mem_map.mp member
  exact areDigits key inDigits

/-- A resize among the keys of a choice is the name, and it chooses no register. -/
theorem Chooses.of_resize {choice : List (Script × Int)} {register : Nat}
    (chooses : Chooses choice register) (named : KeyCode.resize ∈ choice.map Prod.snd) :
    register = 0 ∧ choice.map Prod.snd = [registerMark, KeyCode.resize] := by
  cases chooses with
  | none => cases named
  | some mark name code =>
    have here : code = KeyCode.resize := by
      simpa [registerMark, KeyCode.resize, eq_comm] using named
    subst here
    exact ⟨registerOf_resize, rfl⟩

/-- A resize that starts a key is a key of its own. When it is among the keys of a command, the
command reports it, unless the resize stands where a register is named: then it names none, and
the command is that of the key after it. -/
theorem read_resize (full : Bool) (script : Script) (command : Command)
    (read : (read limits lookup full script).command = some command) :
    let reading := Command.read limits lookup full script
    (∃ keys, Cut limits script keys reading.rest ∧ reading.keys = keys.map Prod.snd ∧
      (limits.keyMin ≤ KeyCode.resize → ∀ key ∈ keys,
        key.1.head? = some (some KeyCode.resize) → key = ([some KeyCode.resize], KeyCode.resize))) ∧
    (KeyCode.resize ∈ reading.keys → command.meaning = .resize ∨
      command.register = 0 ∧ ∃ digits : List Int, (∀ digit ∈ digits, 48 ≤ digit ∧ digit ≤ 57) ∧
        reading.keys = digits ++ [registerMark, KeyCode.resize, command.code]) ∧
    (command.meaning = .resize ↔ command.code = KeyCode.resize) := by
  intro reading
  obtain ⟨digits, choice, units, register, areDigits, chooses, cut, keys, chosen, means⟩ :=
    read_cut full script command read
  refine ⟨⟨_, cut, ?_, ?_⟩, ?_, ?_⟩
  · simpa using keys
  · rintro pseudo ⟨first, code⟩ member starts
    have isKey := cut.key _ member
    cases first with
    | nil => cases starts
    | cons unit rest =>
      obtain rfl : unit = some KeyCode.resize := Option.some.inj starts
      obtain ⟨rfl, rfl⟩ := isKey.eq_of_single (by decide) (.inl pseudo)
      rfl
  · intro consumed
    rw [means, meaningOf_eq_resize, chosen]
    -- The code of a resize is no digit's, so it is a key of the choice or the last key.
    have noDigit : KeyCode.resize ∉ digits.map Prod.snd := fun member =>
      absurd (areDigits.codes _ member).2 (by decide)
    have found : KeyCode.resize ∈ choice.map Prod.snd ∨ command.code = KeyCode.resize := by
      have member : KeyCode.resize ∈ digits.map Prod.snd ++ choice.map Prod.snd ++ [command.code] :=
        keys ▸ consumed
      simpa [or_assoc, noDigit, eq_comm] using member
    rcases found with named | last
    · obtain ⟨none, same⟩ := chooses.of_resize named
      refine .inr ⟨congrArg Nat.cast none, digits.map Prod.snd, areDigits.codes, ?_⟩
      rw [keys, same, List.append_assoc]
      rfl
    · exact .inl last
  · rw [means, meaningOf_eq_resize]

/-- A resize after a count, and a resize where a register is named before it. -/
theorem read_resize_counted :
    let script : Script := [some 52, some 34, some 410, some 410]
    let command : Command := ⟨.resize, 4, 0, 410⟩
    (Command.read {} (fun _ => none) true script).command = some command ∧
      command.code = KeyCode.resize := by
  have read : (Command.read {} (fun _ => none) true [some 52, some 34, some 410, some 410]).command =
      some ⟨.resize, 4, 0, 410⟩ := by
    simp [Command.read, readFull, readCount, decodeKey, continuesCount, finish, registerMark]
    decide
  exact ⟨read, (read_resize true _ _ read).2.2.mp rfl⟩

/-- A command in which a resize was read and which reports none. -/
theorem read_resize_as_register :
    let reading := Command.read {} (fun _ => none) true
      [some registerMark, some KeyCode.resize, some 113]
    reading.rest = [] ∧ reading.keys = [registerMark, KeyCode.resize, 113] ∧
      reading.command = some ⟨.unbound, 1, 0, 113⟩ := by
  simp [Command.read, readFull, readCount, decodeKey, continuesCount, finish, registerMark,
    KeyCode.resize]
  decide

end KeyBindings.Command
