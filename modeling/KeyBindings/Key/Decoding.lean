import KeyBindings.Key.Limits
import KeyBindings.Text.Utf8

/-!
# Decoding keys

The terminal delivers raw units: octets of UTF-8 text, pseudo-key codes, or nothing for now.
`decodeKey` takes the units of one key and gives its code. Nothing, also in the middle of a
character, ends the key at once.
-/
namespace KeyBindings

/-- The raw units still to come; `none` is a moment without input. -/
abbrev Script := List (Option Int)

/-- Take the octets that continue a character. Only the low eight bits of a unit count. -/
def takeOctets : Nat → Script → Option Text.Utf8.Octets × Script
  | 0, script => (some [], script)
  | _ + 1, [] => (none, [])
  | _ + 1, none :: rest => (none, rest)
  | count + 1, some unit :: rest =>
    if unit < 0 then (none, rest)
    else
      let (octets, after) := takeOctets count rest
      (octets.map ((unit % 256).toNat :: ·), after)

/-- Decode one key. Pseudo-keys and one-octet characters stand for themselves. Any other
octet starts a character, and octets that are none give the replacement character. -/
def decodeKey (limits : Limits) : Script → Option Int × Script
  | [] => (none, [])
  | none :: rest => (none, rest)
  | some unit :: rest =>
    if unit < 0 then (none, rest)
    else if limits.keyMin ≤ unit || unit < 0x80 then (some unit, rest)
    else match Text.Utf8.sequenceLength unit with
      | 0 => (some (limits.extendedCode Text.Utf8.replacement), rest)
      | 1 => (some (limits.extendedCode Text.Utf8.replacement), rest)
      | length + 1 =>
        let (octets, after) := takeOctets length rest
        (octets.map fun octets =>
          limits.extendedCode ((Text.Utf8.char? (unit.toNat :: octets)).getD Text.Utf8.replacement),
         after)

theorem takeOctets_length (count : Nat) (script : Script) :
    (takeOctets count script).2.length ≤ script.length := by
  induction count generalizing script with
  | zero => simp [takeOctets]
  | succ count ih =>
    match script with
    | [] => simp [takeOctets]
    | none :: rest => simp [takeOctets]
    | some unit :: rest =>
      have shorter := ih rest
      simp only [takeOctets]
      split
      · simp
      · simp only [List.length_cons]; omega

/-- Decoding takes at least one unit, if there is one. -/
theorem decodeKey_length (limits : Limits) (script : Script) (units : script ≠ []) :
    (decodeKey limits script).2.length < script.length := by
  match script with
  | [] => exact absurd rfl units
  | none :: rest => simp [decodeKey]
  | some unit :: rest =>
    simp only [decodeKey]
    split
    · simp
    · split
      · simp
      · split
        · simp
        · simp
        next length _ _ =>
          have bound := takeOctets_length length rest
          simp only [List.length_cons]
          omega

theorem decodeKey_some_length (limits : Limits) (script rest : Script) (code : Int)
    (decoded : decodeKey limits script = (some code, rest)) : rest.length < script.length := by
  have units : script ≠ [] := by
    rintro rfl
    simp [decodeKey] at decoded
  have shorter := decodeKey_length limits script units
  rw [decoded] at shorter
  exact shorter

theorem decodeKey_length_le (limits : Limits) (script : Script) :
    (decodeKey limits script).2.length ≤ script.length := by
  by_cases units : script = []
  · simp [units, decodeKey]
  · exact Nat.le_of_lt (decodeKey_length limits script units)

/-- Decode all keys of a script. With each stands the script that is left. -/
def decodeAll (limits : Limits) (script : Script) : List (Option Int × Script) :=
  if _units : script = [] then []
  else
    let decoded := decodeKey limits script
    decoded :: decodeAll limits decoded.2
termination_by script.length
decreasing_by exact decodeKey_length limits script _units

/-! ### Keystrokes

What a user can press, and the units that the terminal delivers for it. Decoding these units
gives the code of the keystroke back. -/

inductive Keystroke where
  | char (c : Char)
  | pseudo (value : Int)
  deriving DecidableEq, Repr

namespace Keystroke

/-- The units of a keystroke: the octets of a character, or the pseudo-key itself. -/
def units : Keystroke → Script
  | .char c => (Text.Utf8.encodeChar c).map fun (octet : Nat) => some octet
  | .pseudo value => [some value]

/-- The code of a keystroke. Only characters of more than one octet are shifted. -/
def code (limits : Limits) : Keystroke → Int
  | .char c => if c.toNat < 0x80 then c.toNat else limits.extendedCode c
  | .pseudo value => value

end Keystroke

end KeyBindings
