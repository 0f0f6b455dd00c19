import KeyBindings.Text.CellWidth

/-!
# Windows

A window is a part of the terminal screen that text is written to. It keeps the calls that
were made on it. A write can fail; which attempts fail is given beforehand, counted over all
writes to the window. A write that fails leaves no call.
-/
namespace KeyBindings

/-- The terminal refuses a write, as it does in the last cell of a window. -/
inductive Refusal where
  | refused
  deriving DecidableEq, Repr

/-- A write is refused, or something unforeseen happens. -/
inductive WriteFault where
  | refused
  | unforeseen
  deriving DecidableEq, Repr

inductive Call where
  | text (y x : Int) (text : String) (bold : Bool)
  /-- Text of which at most `limit` cells are shown. -/
  | limitedText (y x : Int) (text : String) (limit : Int)
  | move (y x : Int)
  | keypad
  | erase
  | clear
  | refresh
  | refreshLater
  | clearLine
  deriving DecidableEq, Repr

/-- A window whose writes can fail in some ways. -/
structure Window (Fault : Type := WriteFault) where
  height : Int
  width : Int
  /-- The fault of a write attempt, by its number. -/
  fault : Nat → Option Fault := fun _ => none
  attempts : Nat := 0
  calls : List Call := []

namespace Window

variable {Fault : Type}

/-- Make a call that cannot fail. -/
def call (window : Window Fault) (call : Call) : Window Fault :=
  { window with calls := window.calls ++ [call] }

def write (window : Window Fault) (call : Call) : Window Fault × Option Fault :=
  let counted := { window with attempts := window.attempts + 1 }
  match window.fault window.attempts with
  | some fault => (counted, some fault)
  | none => (counted.call call, none)

/-- Write text that may be refused, and go on either way. -/
def tryWrite (window : Window Refusal) (call : Call) : Window Refusal := (window.write call).1

/-- The window without the calls made so far. -/
def forget (window : Window Fault) : Window Fault := { window with calls := [] }

end Window

/-! ### Pictures

The calls on a window become control sequences, with which a terminal shows what the window
holds. -/

/-- Put the cursor on a line and column, counted from zero. -/
def cursorTo (y x : Int) : String := s!"\x1b[{y + 1};{x + 1}H"

/-- A call on a window whose first line has the number `top`, as control sequences. -/
def Call.picture (top : Int) : Call → String
  | .text y x shown bold =>
    cursorTo (top + y) x ++ if bold then "\x1b[1m" ++ shown ++ "\x1b[0m" else shown
  | .limitedText y x shown limit => cursorTo (top + y) x ++ Text.clipText shown limit
  | .move y x => cursorTo (top + y) x
  | .keypad => "\x1b[?1h"
  | .erase => cursorTo top 0 ++ "\x1b[J"
  | .clear => cursorTo top 0 ++ "\x1b[J"
  | .refresh => ""
  | .refreshLater => ""
  | .clearLine => "\x1b[K"

end KeyBindings
