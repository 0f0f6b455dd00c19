import KeyBindings.Action
import KeyBindings.Key.Codes
import KeyBindings.Key.Decoding

/-!
# Commands

A command is typed as `[count]["register]key`. The count is a decimal number that does not
start with a zero; without one it is 1. After the quote a digit from 1 to 9 names the registers
1 to 9 and a letter from a to z the registers 10 to 35; any other key names no register. The
last key is looked up among the bound keys, unless it reports a resize. When the input runs
dry, there is no command.
-/
namespace KeyBindings

/-- What the key of a command stands for. -/
inductive Meaning where
  | action (action : Action)
  | resize
  | unbound
  deriving DecidableEq, Repr

/-- A command as it was read. Register 0 is the one that is used when none is named. -/
structure Command where
  meaning : Meaning
  count : Int := 1
  register : Int := 0
  code : Int := 0
  deriving DecidableEq, Repr

namespace Command

/-- Does a key continue a count? A zero does when there are digits before it. -/
def continuesCount (count : Nat) (code : Int) : Bool :=
  (code = 48 && 0 < count) || (49 ≤ code && code ≤ 57)

/-- The key that announces a register. -/
def registerMark : Int := 34

/-- The register that a key names. -/
def registerOf (code : Int) : Nat :=
  if 49 ≤ code ∧ code ≤ 57 then (code - 48).toNat
  else if 97 ≤ code ∧ code ≤ 122 then (code - 97 + 10).toNat
  else 0

/-- What a key stands for, given the actions of the bound keys. -/
def meaningOf (lookup : Int → Option Action) (code : Int) : Meaning :=
  if code = KeyCode.resize then .resize
  else match lookup code with
    | some action => .action action
    | none => .unbound

/-- A count that was read: its value, the first key after it, all keys that were decoded, and
the units after them. -/
structure CountReading where
  count : Nat
  next : Option Int
  keys : List Int
  rest : Script
  deriving Repr

/-- Read the rest of a count and the key after it. -/
def readCount (limits : Limits) (count : Nat) (script : Script) : CountReading :=
  match decoded : decodeKey limits script with
  | (none, rest) => ⟨count, none, [], rest⟩
  | (some code, rest) =>
    if continuesCount count code then
      let more := readCount limits (count * 10 + (code - 48).toNat) rest
      { more with keys := code :: more.keys }
    else ⟨count, some code, [code], rest⟩
termination_by script.length
decreasing_by exact decodeKey_some_length limits script rest code decoded

/-- A command that was read, with the keys that were decoded for it and the units after it. -/
structure Reading where
  command : Option Command
  keys : List Int
  rest : Script
  deriving Repr

/-- Finish a command with its last key. -/
def finish (lookup : Int → Option Action) (count register : Nat) (last : Option Int)
    (keys : List Int) (rest : Script) : Reading :=
  ⟨last.map fun code => ⟨meaningOf lookup code, count, register, code⟩, keys, rest⟩

/-- Read a command that is one key. -/
def readPlain (limits : Limits) (lookup : Int → Option Action) (script : Script) : Reading :=
  let (code, rest) := decodeKey limits script
  finish lookup 1 0 code code.toList rest

/-- Read a command with its count and register. -/
def readFull (limits : Limits) (lookup : Int → Option Action) (script : Script) : Reading :=
  let start := readCount limits 0 script
  let count := max start.count 1
  if start.next = some registerMark then
    match decodeKey limits start.rest with
    | (none, rest) => finish lookup count 0 none start.keys rest
    | (some mark, rest) =>
      let (code, rest) := decodeKey limits rest
      finish lookup count (registerOf mark) code (start.keys ++ mark :: code.toList) rest
  else finish lookup count 0 start.next start.keys start.rest

/-- Read a command, with or without count and register. -/
def read (limits : Limits) (lookup : Int → Option Action) (full : Bool) (script : Script) :
    Reading :=
  if full then readFull limits lookup script else readPlain limits lookup script

theorem readCount_length (limits : Limits) (count : Nat) (script : Script) (units : script ≠ []) :
    (readCount limits count script).rest.length < script.length := by
  have shorter := decodeKey_length limits script units
  rw [readCount]
  split
  next rest decoded => simpa [decoded] using shorter
  next code rest decoded =>
    have smaller := decodeKey_some_length limits script rest code decoded
    split
    -- A digit goes on with what is left, which is shorter or nothing.
    · by_cases left : rest = []
      · subst left
        rw [readCount]
        simpa [decodeKey] using smaller
      · have tail := readCount_length limits (count * 10 + (code - 48).toNat) rest left
        simp only
        omega
    · exact smaller
termination_by script.length
decreasing_by exact smaller

/-- Reading a command takes at least one unit, if there is one. -/
theorem read_length (limits : Limits) (lookup : Int → Option Action) (full : Bool)
    (script : Script) (units : script ≠ []) :
    (read limits lookup full script).rest.length < script.length := by
  cases full with
  | false => exact decodeKey_length limits script units
  | true =>
    have start := readCount_length limits 0 script units
    simp only [read, readFull, if_true]
    split
    -- Behind the mark of a register two more keys are read, and neither adds units.
    · have mark := decodeKey_length_le limits (readCount limits 0 script).rest
      split
      next rest decoded =>
        rw [decoded] at mark
        simp only [finish] at mark ⊢
        omega
      next code rest decoded =>
        rw [decoded] at mark
        have last := decodeKey_length_le limits rest
        simp only [finish] at mark ⊢
        omega
    · exact start

/-- Read all commands of a script. -/
def readAll (limits : Limits) (lookup : Int → Option Action) (full : Bool) (script : Script) :
    List Reading :=
  if _units : script = [] then []
  else
    let reading := read limits lookup full script
    reading :: readAll limits lookup full reading.rest
termination_by script.length
decreasing_by exact read_length limits lookup full script _units

end Command

end KeyBindings
