import KeyBindings.Binding.Table
import KeyBindings.Screen.Events

/-!
# The key inspector

The inspector shows every key on the last line of a window, with its code, its name and the
action that it is bound to, until the escape key ends it.
-/
namespace KeyBindings.Inspector

def greeting : String := "TTY Debug Mode: Press keys to see codes (ESC to exit)"
def farewell : String := "TTY Debug Mode ended"

/-- Show a line in place of the last one. When the terminal refuses it, the window is not
refreshed. -/
def showLine (window : Window Refusal) (text : String) : Window Refusal :=
  let last := window.height - 1
  let cleared := (window.call (.move last 0)).call .clearLine
  match cleared.write (.limitedText last 0 text (max 0 (window.width - 1))) with
  | (shown, none) => shown.call .refresh
  | (shown, some _) => shown

/-- What is shown of the action that a key is bound to. The action with the number zero is
not told from none. -/
def boundText (bound : Option Action) : String :=
  match bound with
  | some action => if action.ordinal = 0 then "unbound" else action.label
  | none => "unbound"

def lineFor (table : Table) (code : Int) : String :=
  let bound := if code = KeyCode.resize then "resize" else boundText (table.lookup code)
  s!"{table.keyboard.describe code} -> {bound}"

/-- An inspection: the window, the keys that were decoded, the events after them, and whether
it was ended or stopped for want of events. -/
structure Inspection where
  window : Window Refusal
  keys : List Int
  rest : List Event
  ended : Bool

/-- Show keys up to the escape key. -/
def watch (table : Table) (window : Window Refusal) (events : List Event) : Inspection :=
  match _read : decodeKey table.limits (Event.script events) with
  | (code, left) =>
    match _parts : Event.cut? events left with
    | none => ⟨Event.applyTo window events, [], [], false⟩
    | some (taken, rest) =>
      let window := Event.applyTo window taken
      match code with
      | none => watch table window rest
      | some code =>
        if code = KeyCode.escape then ⟨showLine window farewell, [code], rest, true⟩
        else
          let watched := watch table (showLine window (lineFor table code)) rest
          { watched with keys := code :: watched.keys }
termination_by events.length
decreasing_by
  all_goals
    have shorter := decodeKey_length table.limits _ (Event.script_ne_nil events)
    rw [_read] at shorter
    exact Event.cut?_length events taken rest left shorter _parts

def run (table : Table) (window : Window Refusal) (events : List Event) : Inspection :=
  watch table (showLine window greeting) events

end KeyBindings.Inspector
