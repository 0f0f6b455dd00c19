import KeyBindings.Proofs.Command.Typing
import Mathlib.Data.Nat.Digits.Defs

/-!
# How a script is cut into commands

Any script is a run of keys up to its first moment without input. The first command takes the longest
count at the start of these keys, the choice of a register if the quote comes next, and one more key.
When the input runs dry before that key, no command is read and nothing behind the dry moment is
touched. So commands that are read one after the other take every key once.
-/
namespace KeyBindings

/-! ### Cutting a script -/

section

variable {limits : Limits} {script middle rest : Script} {keys more : List (Script × Int)}

/-- A script that is cut into keys is cut at any place between them. -/
theorem Cut.split {front back : List Int} (cut : Cut limits script keys rest)
    (codes : keys.map Prod.snd = front ++ back) :
    ∃ before after middle, before.map Prod.snd = front ∧ after.map Prod.snd = back ∧
      Cut limits script before middle ∧ Cut limits middle after rest := by
  obtain ⟨before, after, rfl, first, second⟩ := List.map_eq_append_iff.mp codes
  refine ⟨before, after, after.flatMap Prod.fst ++ rest, first, second, ⟨?_, ?_⟩, ⟨rfl, ?_⟩⟩
  · rw [cut.units, List.flatMap_append, List.append_assoc]
  · exact fun key member => cut.key key (List.mem_append_left _ member)
  · exact fun key member => cut.key key (List.mem_append_right _ member)

theorem Cut.decodeKey_eq {code : Int} (cut : Cut limits script keys rest)
    (codes : keys.map Prod.snd = [code]) : decodeKey limits script = (some code, rest) := by
  obtain ⟨⟨units, found⟩, rfl, rfl⟩ := List.map_eq_singleton_iff.mp codes
  rw [cut.units]
  simpa using (cut.key (units, found) List.mem_cons_self).decoded rest

/-- Every script is a run of keys and then a moment without input, which may be its end. -/
theorem exists_cut_dry (limits : Limits) (script : Script) :
    ∃ keys middle rest, Cut limits script keys middle ∧ decodeKey limits middle = (none, rest) := by
  cases decoded : decodeKey limits script with
  | mk found rest =>
    cases found with
    | none => exact ⟨[], script, rest, ⟨rfl, by simp⟩, decoded⟩
    | some code =>
      have smaller := decodeKey_some_length limits script rest code decoded
      obtain ⟨units, first⟩ := Cut.of_decodeKey script rest code decoded
      obtain ⟨keys, middle, dry, tail, ends⟩ := exists_cut_dry limits rest
      exact ⟨_, middle, dry, first.append tail, ends⟩
termination_by script.length

/-- The codes of the keys that a script holds, moments without input left out. -/
def decodedKeys (limits : Limits) (script : Script) : List Int :=
  (decodeAll limits script).filterMap Prod.fst

theorem decodedKeys_cut (cut : Cut limits script keys rest) :
    decodedKeys limits script = keys.map Prod.snd ++ decodedKeys limits rest := by
  obtain ⟨rfl, areKeys⟩ := cut
  induction keys with
  | nil => rfl
  | cons key keys ih =>
    have first := areKeys key List.mem_cons_self
    have tail := ih fun other member => areKeys other (List.mem_cons_of_mem _ member)
    rw [List.flatMap_cons, List.append_assoc, decodedKeys, Keystroke.decodeAll_key first]
    exact congrArg (key.2 :: ·) tail

theorem decodedKeys_dry (dry : decodeKey limits script = (none, rest)) :
    decodedKeys limits script = decodedKeys limits rest := by
  by_cases empty : script = []
  · subst empty
    obtain ⟨-, rfl⟩ := Prod.mk.inj dry
    rfl
  · rw [decodedKeys, decodeAll, dif_neg empty, dry]
    rfl

end

namespace Command

variable {limits : Limits} {lookup : Int → Option Action} {script middle rest : Script}
  {keys : List (Script × Int)} {digits choice : List Int} {last next : Int}

/-! ### Counts -/

/-- A count as it is typed: digits, of which the first is no zero. -/
def IsCount (digits : List Int) : Prop :=
  (∀ digit ∈ digits, 48 ≤ digit ∧ digit ≤ 57) ∧ digits.head? ≠ some 48

def spelledNumber (digits : List Int) : Nat :=
  Nat.ofDigits 10 (digits.map fun digit => (digit - 48).toNat).reverse

theorem spelledNumber_append (digits : List Int) (next : Int) :
    spelledNumber (digits ++ [next]) = spelledNumber digits * 10 + (next - 48).toNat := by
  simp only [spelledNumber, List.map_append, List.map_cons, List.map_nil, List.reverse_append,
    List.reverse_cons, List.reverse_nil, List.nil_append, List.cons_append, Nat.ofDigits_cons]
  omega

theorem isCount_nil : IsCount [] := ⟨by simp, by simp⟩

theorem IsCount.initial {front : List Int} (count : IsCount digits) (initial : front <+: digits) :
    IsCount front := by
  obtain ⟨back, rfl⟩ := initial
  refine ⟨fun digit member => count.1 digit (List.mem_append_left _ member), fun zero => count.2 ?_⟩
  rw [List.head?_append, zero, Option.some_or]

theorem IsCount.spelledNumber_pos (count : IsCount digits) (some : digits ≠ []) :
    0 < spelledNumber digits := by
  -- Any digit behind the first one leaves the number positive, and the first one is no zero.
  induction digits using List.reverseRecOn with
  | nil => exact absurd rfl some
  | append_singleton front last ih =>
    rw [spelledNumber_append]
    by_cases first : front = []
    · subst first
      have digit := count.1 last (by simp)
      have noZero : last ≠ 48 := fun zero => count.2 (by simp [zero])
      omega
    · have positive := ih (count.initial (List.prefix_append _ _)) first
      omega

theorem IsCount.max_spelledNumber (count : IsCount digits) :
    max (spelledNumber digits) 1 = if digits = [] then 1 else spelledNumber digits := by
  split
  next none =>
    subst none
    rfl
  next some =>
    have positive := count.spelledNumber_pos some
    omega

/-- The reader goes on with a count exactly when the next key makes a longer count of it. -/
theorem IsCount.continues_iff (count : IsCount digits) (next : Int) :
    continuesCount (spelledNumber digits) next = true ↔ IsCount (digits ++ [next]) := by
  simp only [continuesCount, Bool.or_eq_true, Bool.and_eq_true, decide_eq_true_eq, IsCount,
    List.forall_mem_append, List.forall_mem_singleton]
  -- Before any digit a zero does not open a count; after one, every digit goes on.
  by_cases none : digits = []
  · subst none
    have zero : spelledNumber [] = 0 := rfl
    simp only [zero, List.nil_append, List.head?_cons, ne_eq, Option.some.injEq, List.not_mem_nil,
      false_implies, implies_true, true_and]
    omega
  · have positive := count.spelledNumber_pos none
    have head : (digits ++ [next]).head? = digits.head? := List.head?_append_of_ne_nil _ none
    rw [head]
    constructor
    · intro continues
      exact ⟨⟨count.1, by omega⟩, count.2⟩
    · rintro ⟨⟨-, digit⟩, -⟩
      omega

theorem spelledNumber_nil : spelledNumber [] = 0 := rfl

theorem readCount_run (read : List Int) (areKeys : ∀ key ∈ keys, IsKey limits key.1 key.2)
    (count : IsCount (read ++ keys.map Prod.snd)) (script : Script) :
    readCount limits (spelledNumber read) (keys.flatMap Prod.fst ++ script) =
      { readCount limits (spelledNumber (read ++ keys.map Prod.snd)) script with
        keys := keys.map Prod.snd ++
          (readCount limits (spelledNumber (read ++ keys.map Prod.snd)) script).keys } := by
  induction keys generalizing read with
  | nil => simp
  | cons key keys ih =>
    obtain ⟨units, code⟩ := key
    -- The first digit makes the count longer, and the others are read behind that.
    have whole : read ++ code :: keys.map Prod.snd = (read ++ [code]) ++ keys.map Prod.snd := by simp
    rw [List.map_cons, whole] at count
    have longer : IsCount (read ++ [code]) := count.initial (List.prefix_append _ _)
    have continues := ((longer.initial (List.prefix_append _ _)).continues_iff code).mpr longer
    have first : IsKey limits units code := areKeys (units, code) List.mem_cons_self
    have tail := ih (read ++ [code]) (fun other member => areKeys other (List.mem_cons_of_mem _ member))
      count
    rw [List.flatMap_cons, List.append_assoc, readCount_key _ first, if_pos continues,
      ← spelledNumber_append, tail, List.map_cons, whole]
    rfl

theorem readCount_ended (cut : Cut limits script keys rest)
    (codes : keys.map Prod.snd = digits ++ [next]) (count : IsCount digits)
    (ends : ¬ IsCount (digits ++ [next])) :
    readCount limits 0 script = ⟨spelledNumber digits, some next, digits ++ [next], rest⟩ := by
  obtain ⟨before, after, middle, rfl, single, first, second⟩ := cut.split codes
  obtain ⟨⟨units, code⟩, rfl, rfl⟩ := List.map_eq_singleton_iff.mp single
  -- The loop takes every digit key, then meets the key that ends the count.
  have run := readCount_run [] first.key (by simpa using count) (units ++ rest)
  have stops : continuesCount (spelledNumber (before.map Prod.snd)) code = false := by
    rw [← Bool.not_eq_true, count.continues_iff]
    exact ends
  have key := readCount_key (spelledNumber (before.map Prod.snd))
    (second.key (units, code) List.mem_cons_self) rest
  rw [stops, if_neg Bool.false_ne_true] at key
  rw [List.nil_append, key, spelledNumber_nil] at run
  rw [first.units, second.units]
  simpa using run

theorem readCount_dry (cut : Cut limits script keys middle) (count : IsCount (keys.map Prod.snd))
    (dry : decodeKey limits middle = (none, rest)) :
    readCount limits 0 script =
      ⟨spelledNumber (keys.map Prod.snd), none, keys.map Prod.snd, rest⟩ := by
  have run := readCount_run [] cut.key (by simpa using count) middle
  -- No further key can be decoded, so the loop ends without one.
  have ends : readCount limits (spelledNumber (keys.map Prod.snd)) middle =
      ⟨spelledNumber (keys.map Prod.snd), none, [], rest⟩ := by
    rw [readCount]
    split
    next after none =>
      obtain ⟨-, rfl⟩ := Prod.mk.inj (none.symm.trans dry)
      rfl
    next code after found => cases found.symm.trans dry
  rw [List.nil_append, ends, spelledNumber_nil] at run
  rw [cut.units]
  simpa using run

/-! ### The parts of a command -/

/-- The register that a choice names. Digits from `1` on name the first nine and letters the 26 behind
them; no choice, and any other key, stands for register 0. -/
inductive Names : List Int → Nat → Prop where
  | unnamed : Names [] 0
  | digit (n : Nat) : 1 ≤ n → n ≤ 9 → Names [registerMark, 48 + n] n
  | letter (n : Nat) : n < 26 → Names [registerMark, 97 + n] (10 + n)
  | other (code : Int) : ¬ (49 ≤ code ∧ code ≤ 57) → ¬ (97 ≤ code ∧ code ≤ 122) →
    Names [registerMark, code] 0

theorem Names.le {register : Nat} (names : Names choice register) : register ≤ 35 := by
  cases names with
  | unnamed => omega
  | digit n low high => omega
  | letter n small => omega
  | other code noDigit noLetter => omega

theorem names_registerOf (code : Int) : Names [registerMark, code] (registerOf code) := by
  unfold registerOf
  split
  next digit =>
    have names := Names.digit (code - 48).toNat (by omega) (by omega)
    rwa [show (48 : Int) + ((code - 48).toNat : Int) = code by omega] at names
  · split
    next letter =>
      have names := Names.letter (code - 97).toNat (by omega)
      rwa [show (97 : Int) + ((code - 97).toNat : Int) = code by omega,
        show 10 + (code - 97).toNat = (code - 97 + 10).toNat by omega] at names
    next noDigit noLetter => exact .other code noDigit noLetter

theorem Names.eq_registerOf {code : Int} {register : Nat} (names : Names [registerMark, code] register) :
    register = registerOf code := by
  unfold registerOf
  -- The two listed units fix the case of the choice, so each is compared by itself.
  generalize same : [registerMark, code] = choice at names
  cases names with
  | unnamed => cases same
  | digit =>
    have code_eq : code = 48 + register := by simpa using same
    rw [if_pos (by omega)]
    omega
  | letter n =>
    have code_eq : code = 97 + n := by simpa using same
    rw [if_neg (by omega), if_pos (by omega)]
    omega
  | other found noDigit noLetter =>
    obtain rfl : code = found := by simpa using same
    rw [if_neg noDigit, if_neg noLetter]

/-- Keys make up a command: the longest count that they start with, the quote with one more key if the
quote comes next, and a last key. -/
structure IsCommand (digits choice : List Int) (last : Int) : Prop where
  count : IsCount digits
  longest : ∀ other, IsCount other → other <+: digits ++ choice ++ [last] → other <+: digits
  choice : choice = [] ∧ last ≠ registerMark ∨ ∃ name, choice = [registerMark, name]

theorem IsCommand.ends (command : IsCommand digits choice last) (initial : digits ++ [next] <+:
    digits ++ choice ++ [last]) : ¬ IsCount (digits ++ [next]) := by
  intro longer
  have short := (command.longest _ longer initial).length_le
  simp at short

theorem IsCount.longest {more : List Int} (ends : ¬ IsCount (digits ++ [next])) (other : List Int)
    (count : IsCount other) (initial : other <+: digits ++ next :: more) : other <+: digits := by
  have same : digits ++ next :: more = (digits ++ [next]) ++ more := by simp
  rw [same] at initial
  rcases List.prefix_or_prefix_of_prefix initial (List.prefix_append _ _) with inside | beyond
  · rcases List.prefix_concat_iff.mp inside with whole | front
    · exact absurd (whole ▸ count) ends
    · exact front
  · exact absurd (count.initial beyond) ends

theorem not_isCount_mark (digits : List Int) : ¬ IsCount (digits ++ [registerMark]) := fun count =>
  absurd (count.1 registerMark (by simp)) (by decide)

theorem isCommand_plain (count : IsCount digits) (ends : ¬ IsCount (digits ++ [last]))
    (plain : last ≠ registerMark) : IsCommand digits [] last :=
  ⟨count, fun other isCount initial => IsCount.longest ends other isCount (by simpa using initial),
    .inl ⟨rfl, plain⟩⟩

theorem isCommand_register (count : IsCount digits) (name last : Int) :
    IsCommand digits [registerMark, name] last :=
  ⟨count, fun other isCount initial =>
    IsCount.longest (not_isCount_mark digits) other isCount (by simpa using initial), .inr ⟨name, rfl⟩⟩

theorem exists_longest (codes : List Int) :
    ∃ digits tail, codes = digits ++ tail ∧ IsCount digits ∧
      ∀ next, tail.head? = some next → ¬ IsCount (digits ++ [next]) := by
  induction codes using List.reverseRecOn with
  | nil => exact ⟨[], [], rfl, isCount_nil, by simp⟩
  | append_singleton front last ih =>
    obtain ⟨digits, tail, rfl, count, ends⟩ := ih
    cases tail with
    | cons next more => exact ⟨digits, next :: more ++ [last], by simp, count, ends⟩
    | nil =>
      -- All keys so far are the count, and the last one continues it or not.
      by_cases longer : IsCount (digits ++ [last])
      · exact ⟨digits ++ [last], [], by simp, longer, by simp⟩
      · refine ⟨digits, [last], by simp, count, fun next head => ?_⟩
        obtain rfl : last = next := by simpa using head
        exact longer

/-- No command is complete among some keys. -/
def Incomplete (codes : List Int) : Prop :=
  ∀ digits choice last, IsCommand digits choice last → ¬ digits ++ choice ++ [last] <+: codes

/-- Keys without a complete command are a count, perhaps with the quote and the key behind it. -/
theorem Incomplete.parts {codes : List Int} (incomplete : Incomplete codes) :
    ∃ digits tail, codes = digits ++ tail ∧ IsCount digits ∧
      (tail = [] ∨ tail = [registerMark] ∨ ∃ name, tail = [registerMark, name]) := by
  obtain ⟨digits, tail, rfl, count, ends⟩ := exists_longest codes
  refine ⟨digits, tail, rfl, count, ?_⟩
  -- Behind the longest count, any key but the quote completes a command, and so does a third key.
  match tail, ends with
  | [], _ => exact .inl rfl
  | [first], ends =>
    by_cases mark : first = registerMark
    · exact .inr (.inl (mark ▸ rfl))
    · refine absurd ?_ (incomplete digits [] first (isCommand_plain count (ends first rfl) mark))
      simp
  | [first, name], ends =>
    by_cases mark : first = registerMark
    · exact .inr (.inr ⟨name, mark ▸ rfl⟩)
    · refine absurd ?_ (incomplete digits [] first (isCommand_plain count (ends first rfl) mark))
      simp
  | first :: name :: last :: more, ends =>
    by_cases mark : first = registerMark
    · subst mark
      refine absurd ?_ (incomplete digits [registerMark, name] last (isCommand_register count name last))
      simp
    · refine absurd ?_ (incomplete digits [] first (isCommand_plain count (ends first rfl) mark))
      simp

/-! ### One command -/

theorem read_of_command (command : IsCommand digits choice last) (cut : Cut limits script keys rest)
    (codes : keys.map Prod.snd = digits ++ choice ++ [last]) :
    ∃ register, Names choice register ∧ read limits lookup true script =
      ⟨some ⟨meaningOf lookup last, (if digits = [] then 1 else spelledNumber digits : Nat), register,
        last⟩, digits ++ choice ++ [last], rest⟩ := by
  rw [← command.count.max_spelledNumber, read, if_pos rfl]
  rcases command.choice with ⟨rfl, plain⟩ | ⟨name, rfl⟩
  · rw [List.append_nil] at codes ⊢
    have start := readCount_ended cut codes command.count (command.ends (by simp))
    exact ⟨0, .unnamed, readFull_plain start plain⟩
  · -- The quote ends the count, and two keys are decoded behind it.
    have whole : digits ++ [registerMark, name] ++ [last] =
        (digits ++ [registerMark]) ++ ([name] ++ [last]) := by simp
    rw [whole] at codes ⊢
    obtain ⟨front, back, middle, first, second, start, tail⟩ := cut.split codes
    obtain ⟨_, _, _, named, final, naming, ending⟩ := tail.split second
    have counted := readCount_ended start first command.count (not_isCount_mark digits)
    refine ⟨registerOf name, names_registerOf name, ?_⟩
    simp [readFull, counted, naming.decodeKey_eq named, ending.decodeKey_eq final, finish]

theorem read_of_dry (cut : Cut limits script keys middle) (dry : decodeKey limits middle = (none, rest))
    (incomplete : Incomplete (keys.map Prod.snd)) :
    read limits lookup true script = ⟨none, keys.map Prod.snd, rest⟩ := by
  rw [read, if_pos rfl]
  -- The input can run dry within the count, at the register's name, or at the last key.
  obtain ⟨digits, tail, codes, count, rfl | rfl | ⟨name, rfl⟩⟩ := incomplete.parts
  · rw [List.append_nil] at codes
    have counted := readCount_dry cut (codes ▸ count) dry
    simp [readFull, counted, finish]
  · have counted := readCount_ended cut codes count (not_isCount_mark digits)
    simp [readFull, counted, dry, finish, codes]
  · have whole : digits ++ [registerMark, name] = (digits ++ [registerMark]) ++ [name] := by simp
    rw [whole] at codes
    obtain ⟨front, back, between, first, second, start, tail⟩ := cut.split codes
    have counted := readCount_ended start first count (not_isCount_mark digits)
    simp [readFull, counted, tail.decodeKey_eq second, dry, finish, codes]

theorem command_or_dry (limits : Limits) (script : Script) :
    (∃ digits choice last keys rest, IsCommand digits choice last ∧ Cut limits script keys rest ∧
      keys.map Prod.snd = digits ++ choice ++ [last]) ∨
    ∃ keys middle rest, Cut limits script keys middle ∧ decodeKey limits middle = (none, rest) ∧
      Incomplete (keys.map Prod.snd) := by
  obtain ⟨keys, middle, rest, cut, dry⟩ := exists_cut_dry limits script
  by_cases incomplete : Incomplete (keys.map Prod.snd)
  · exact .inr ⟨keys, middle, rest, cut, dry, incomplete⟩
  · -- Some first keys are a command, so the script is cut behind them and not at the dry moment.
    unfold Incomplete at incomplete
    push Not at incomplete
    obtain ⟨digits, choice, last, command, back, codes⟩ := incomplete
    obtain ⟨before, _, between, first, _, start, _⟩ := cut.split codes.symm
    exact .inl ⟨digits, choice, last, before, between, command, start, first⟩

/-- The keys of a reading are the first ones of its script, and what it leaves holds the others. -/
theorem decodedKeys_read (script : Script) :
    decodedKeys limits script = (read limits lookup true script).keys ++
      decodedKeys limits (read limits lookup true script).rest := by
  rcases command_or_dry limits script with
    ⟨digits, choice, last, keys, rest, command, cut, codes⟩ | ⟨keys, middle, rest, cut, dry, incomplete⟩
  · obtain ⟨register, -, reading⟩ := @read_of_command limits lookup _ _ _ _ _ _ command cut codes
    rw [reading, decodedKeys_cut cut, codes]
  · rw [read_of_dry cut dry incomplete, decodedKeys_cut cut, decodedKeys_dry dry]

theorem flatMap_keys_readAll (script : Script) :
    (readAll limits lookup true script).flatMap Reading.keys = decodedKeys limits script := by
  by_cases empty : script = []
  · subst empty
    simp [readAll, decodedKeys, decodeAll]
  · -- A reading takes some unit, so the others are read from a shorter script.
    have shorter := read_length limits lookup true script empty
    have tail := flatMap_keys_readAll (read limits lookup true script).rest
    rw [readAll, dif_neg empty, List.flatMap_cons, tail]
    exact (decodedKeys_read script).symm
termination_by script.length

/-- Any script is read by the grammar of commands, for any bindings. Keys that make up a command are
read as it: with the number that its digits spell, or 1 without digits, with the register that is
named, and with what its last key stands for; what is left begins behind the last key. When the
input runs dry while no command is complete, there is none, and what is left begins behind the dry
moment. One of the two is always the case. So all commands of a script together take its keys once
and in their order, a count is at least 1, and registers go up to 35. -/
theorem read_segments (limits : Limits) (lookup : Int → Option Action) (script : Script) :
    let reading := read limits lookup true script
    (∀ digits choice last keys rest, IsCommand digits choice last → Cut limits script keys rest →
      keys.map Prod.snd = digits ++ choice ++ [last] →
      ∃ register, Names choice register ∧ reading =
        { command := some
            { meaning := if last = KeyCode.resize then .resize else (lookup last).elim .unbound .action
              count := (if digits = [] then 1 else spelledNumber digits : Nat)
              register, code := last }
          keys := digits ++ choice ++ [last], rest }) ∧
    (∀ keys middle rest, Cut limits script keys middle → decodeKey limits middle = (none, rest) →
      Incomplete (keys.map Prod.snd) → reading = ⟨none, keys.map Prod.snd, rest⟩) ∧
    ((∃ digits choice last keys rest, IsCommand digits choice last ∧ Cut limits script keys rest ∧
        keys.map Prod.snd = digits ++ choice ++ [last]) ∨
      ∃ keys middle rest, Cut limits script keys middle ∧ decodeKey limits middle = (none, rest) ∧
        Incomplete (keys.map Prod.snd)) ∧
    (readAll limits lookup true script).flatMap Reading.keys =
      (decodeAll limits script).filterMap Prod.fst ∧
    ∀ command, reading.command = some command →
      1 ≤ command.count ∧ 0 ≤ command.register ∧ command.register ≤ 35 := by
  intro reading
  refine ⟨?_, ?_, command_or_dry limits script, flatMap_keys_readAll script, ?_⟩
  · intro digits choice last keys rest command cut codes
    -- The reader looks a resize up first; the statement asks the code first.
    have means : meaningOf lookup last =
        if last = KeyCode.resize then .resize else (lookup last).elim .unbound .action := by
      unfold meaningOf
      cases lookup last <;> rfl
    rw [← means]
    exact read_of_command command cut codes
  · exact fun keys middle rest cut dry incomplete => read_of_dry cut dry incomplete
  · intro command found
    simp only [reading] at found
    -- The bounds are read off whichever reading there is; a dry script has none.
    rcases command_or_dry limits script with
      ⟨digits, choice, last, keys, rest, parts, cut, codes⟩ | ⟨keys, middle, rest, cut, dry, incomplete⟩
    · obtain ⟨register, names, read⟩ := @read_of_command limits lookup _ _ _ _ _ _ parts cut codes
      rw [read] at found
      obtain rfl := Option.some.inj found
      have bound := names.le
      have positive : 1 ≤ max (spelledNumber digits) 1 := Nat.le_max_right _ _
      rw [parts.count.max_spelledNumber] at positive
      dsimp only
      omega
    · rw [read_of_dry cut dry incomplete] at found
      cases found

/-- A count that goes on with a zero, a register, and a character of two octets as the last key. -/
theorem read_segments_register :
    IsCommand [49, 48] [34, 98] 744 ∧
      read {} (fun _ => none) true [some 49, some 48, some 34, some 98, some 0xC3, some 0xA9] =
        ⟨some ⟨.unbound, 10, 11, 744⟩, [49, 48, 34, 98, 744], []⟩ := by
  have command : IsCommand [49, 48] [34, 98] 744 :=
    isCommand_register ⟨by decide, by decide⟩ 98 744
  have ascii : ∀ code : Int, 0 ≤ code → code < 0x80 → IsKey {} [some code] code :=
    fun code low high => .of_single code low (.inr high)
  have cut : Cut {} [some 49, some 48, some 34, some 98, some 0xC3, some 0xA9]
      [([some 49], 49), ([some 48], 48), ([some 34], 34), ([some 98], 98),
        ([some 0xC3, some 0xA9], 744)] [] := by
    refine ⟨rfl, ?_⟩
    simp only [List.forall_mem_cons, List.not_mem_nil, false_implies, implies_true, and_true]
    refine ⟨ascii 49 ?_ ?_, ascii 48 ?_ ?_, ascii 34 ?_ ?_, ascii 98 ?_ ?_,
      Keystroke.isKey_char 'é' (by decide)⟩
    all_goals decide
  obtain ⟨register, names, reading⟩ :=
    (read_segments {} (fun _ => none) _).1 [49, 48] [34, 98] 744 _ [] command cut rfl
  have chosen : register = 11 := names.eq_registerOf
  subst chosen
  exact ⟨command, reading⟩

end Command

end KeyBindings
