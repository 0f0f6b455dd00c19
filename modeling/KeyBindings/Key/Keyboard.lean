import KeyBindings.Key.Codes
import KeyBindings.Key.Terminal
import KeyBindings.Text.CodePoint

/-!
# Keyboards: codes and their names

A keyboard knows the limits of the code ranges and the name of every key. Ordinary and
pseudo keys have the terminal's names, apart from the short names of frequent keys; an
extended key is named by its character. `codeOf` reads a name back and never fails: a text
that names no key stands for the extended code of its first character.
-/
namespace KeyBindings

/-- Why no keyboard can be made. -/
inductive KeyboardFault where
  /-- A code to be named lies outside the table of names. -/
  | noSlot
  /-- The terminal broke down. -/
  | terminal
  deriving DecidableEq, Repr

/-- Limits, and the names that the terminal gave, empty where it gave none. -/
structure Keyboard where
  limits : Limits
  given : Int → String

namespace Keyboard

/-- Ask the terminal for the names of some codes, and see that each has its place. -/
def ask (limits : Limits) (terminal : Terminal) : List Int → Except KeyboardFault Unit
  | [] => .ok ()
  | code :: rest =>
    if terminal code = .brokenDown then .error .terminal
    else if limits.hasSlot code then ask limits terminal rest
    else .error .noSlot

/-- Make the keyboard of a terminal. When the first pseudo-key has no place, no other is
asked for. -/
def make (limits : Limits) (terminal : Terminal) : Except KeyboardFault Keyboard := do
  ask limits terminal Limits.ordinaryCodes
  ask limits terminal
    (if limits.keyMin < -limits.keyMax ∧ limits.keyMin < limits.keyMax then [limits.keyMin]
     else limits.pseudoCodes)
  return ⟨limits, fun code => (terminal code).name⟩

/-- The name of an ordinary or pseudo key, empty when it has none. -/
def keyName (keyboard : Keyboard) (code : Int) : String :=
  let slot := keyboard.limits.slot code
  match KeyCode.shortNames.lookup slot with
  | some name => if slot < keyboard.limits.keyMax then name else keyboard.given slot
  | none => keyboard.given slot

def nameOf? (keyboard : Keyboard) (code : Int) : Option String :=
  match keyboard.limits.classify? code with
  | none => none
  | some .extended =>
    some (String.singleton (Char.ofNat (code - keyboard.limits.keyMax).toNat))
  | some _ =>
    let name := keyboard.keyName code
    if name = "" then none else some name

def codeOf (keyboard : Keyboard) (name : String) : Int :=
  match KeyCode.formerNames.lookup name with
  | some code => code
  | none =>
    match name.toList with
    | [] => keyboard.limits.keyMax
    | first :: _ =>
      (keyboard.limits.scanOrder.find? fun code => keyboard.keyName code == name).getD
        (keyboard.limits.extendedCode first)

/-- The code that a text of code points stands for. No key has a surrogate in its name. -/
def codeOfPoints (keyboard : Keyboard) (name : Text.Points) : Int :=
  match Text.string? name with
  | some text => keyboard.codeOf text
  | none => keyboard.limits.keyMax + ((name.head?.map Text.CodePoint.toNat).getD 0 : Nat)

@[simp]
theorem codeOfPoints_points (keyboard : Keyboard) (name : String) :
    keyboard.codeOfPoints name = keyboard.codeOf name := by
  simp [codeOfPoints]

/-- A one-line summary of a code, with its range and name. -/
def describe (keyboard : Keyboard) (code : Int) : String :=
  let range := match keyboard.limits.classify? code with
    | some range => range.name
    | none => "invalid"
  let name := (keyboard.nameOf? code).getD "-"
  s!"code={code} range={range} name={name}"

end Keyboard

end KeyBindings
