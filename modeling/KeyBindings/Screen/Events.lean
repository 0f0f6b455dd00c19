import KeyBindings.Key.Codes
import KeyBindings.Key.Decoding
import KeyBindings.Screen.Window

/-!
# Events of a terminal

What the terminal reports while a program runs: a raw unit, a moment without input, or a new
size of the window, which also counts as a unit. A program that reads on after the last
event is stopped.
-/
namespace KeyBindings

inductive Event where
  | unit (value : Int)
  | quiet
  | resize (height width : Int)
  deriving DecidableEq, Repr

namespace Event

/-- What a window hands on of a unit that it read. A value of -1 tells that there is none. -/
def windowUnit (value : Int) : Option Int := if value = -1 then none else some value

def toUnit : Event → Option Int
  | .unit value => windowUnit value
  | .quiet => none
  | .resize _ _ => some KeyCode.resize

/-- The units of some events, and one moment without input behind them that no program gets
to see the other side of. -/
def script (events : List Event) : Script := events.map toUnit ++ [none]

def applyTo {Fault : Type} (window : Window Fault) (events : List Event) : Window Fault :=
  events.foldl (fun window event =>
    match event with
    | .resize height width => { window with height, width }
    | _ => window) window

/-- Cut some events where a reader stopped, given the units that it left. Nothing when it
read on after the last event. -/
def cut? (events : List Event) (left : Script) : Option (List Event × List Event) :=
  match left with
  | [] => none
  | _ :: after => some (events.splitAt (events.length - after.length))

theorem cut?_length (events taken rest : List Event) (left : Script)
    (shorter : left.length < (script events).length)
    (parts : cut? events left = some (taken, rest)) : rest.length < events.length := by
  match left with
  | [] => simp [cut?] at parts
  | _ :: after =>
    simp only [cut?, Option.some.injEq, List.splitAt_eq, Prod.mk.injEq] at parts
    obtain ⟨_, rfl⟩ := parts
    simp only [script, List.length_append, List.length_map, List.length_cons,
      List.length_nil] at shorter
    simp only [List.length_drop]
    omega

theorem script_ne_nil (events : List Event) : script events ≠ [] := by
  simp [script]

end Event

end KeyBindings
