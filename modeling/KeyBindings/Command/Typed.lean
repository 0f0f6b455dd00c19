import KeyBindings.Command
import KeyBindings.Key.Decoding

/-!
# Typed commands

A command as a user means to type it, the units that come of typing it, and the command that
it is read as.
-/
namespace KeyBindings

/-- A command to be typed. Without a count it is meant once, without a register it uses the
usual one. -/
structure TypedCommand where
  count : Option Nat := none
  register : Option Nat := none
  key : Keystroke
  deriving DecidableEq, Repr

namespace TypedCommand

/-- The units of ASCII characters. -/
def charUnits (chars : List Char) : Script := chars.map fun c => some (c.toNat : Int)

/-- The character that names a register: a digit, then the letters. -/
def registerChar (register : Nat) : Char :=
  if register < 10 then Char.ofNat (48 + register) else Char.ofNat (87 + register)

/-- The digits of a count. -/
def countUnits : Option Nat → Script
  | none => []
  | some count => charUnits (Nat.toDigits 10 count)

/-- The quote and the character of a register. -/
def registerUnits : Option Nat → Script
  | none => []
  | some register => some Command.registerMark :: charUnits [registerChar register]

/-- The units of a typed command. -/
def units (typed : TypedCommand) : Script :=
  countUnits typed.count ++ registerUnits typed.register ++ typed.key.units

/-- The command that is meant, given the actions of the bound keys. -/
def command (limits : Limits) (lookup : Int → Option Action) (typed : TypedCommand) : Command :=
  let code := typed.key.code limits
  ⟨Command.meaningOf lookup code, typed.count.getD 1, typed.register.getD 0, code⟩

end TypedCommand

end KeyBindings
