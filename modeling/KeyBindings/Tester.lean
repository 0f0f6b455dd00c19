import KeyBindings.Binder
import KeyBindings.Dispatch
import KeyBindings.Journal.Record
import KeyBindings.Screen.Events

/-!
# The key tester

The tester reads commands, shows what they stand for, and keeps a legend of all actions at
the bottom of the screen. The legend turns its pages on request; its window is made anew
when the screen changes its size, and the page then stays within the pages that there are.
-/
namespace KeyBindings

inductive TerminalCall where
  | newWindow (height width y x : Int)
  | updateSize
  | escapeDelay (milliseconds : Int)
  | cursor (visibility : Int)
  deriving DecidableEq, Repr

structure Tester where
  binder : Binder
  screen : Window Refusal
  legend : Window
  page : Int := 0
  running : Bool := true
  last : Option Command := none
  terminal : List TerminalCall := []

/-- What is drawn between two updates of the terminal. The legend is a page in a window of
some width. -/
structure Frame where
  screen : List Call
  legend : List Call
  terminal : List TerminalCall
  page : Int
  width : Int
  cells : List LegendCell
  deriving DecidableEq, Repr

namespace Tester

def entries : List LegendEntry := Action.all.map .action

def legendHeight : Int := 2

def pages (tester : Tester) : Int := tester.binder.legendPages entries tester.legend

/-- Make the window of the legend for the size of the screen. -/
def renewLegend (tester : Tester) : Tester :=
  let y := max 0 (tester.screen.height - legendHeight)
  let legend : Window := { height := legendHeight, width := tester.screen.width }
  let made := .newWindow legendHeight tester.screen.width y 0
  let renewed := { tester with legend, terminal := tester.terminal ++ [made] }
  { renewed with page := min renewed.page (renewed.pages - 1) }

/-- A tester on a screen that starts with some page. -/
def make (binder : Binder) (screen : Window Refusal) (page : Int) (terminal : List TerminalCall) :
    Tester :=
  let legend : Window := { height := legendHeight, width := screen.width }
  renewLegend { binder, screen, legend, page, terminal }

def quit : Handler Tester := fun _ tester => (.unchanged, { tester with running := false })

def turnPage : Handler Tester := fun command tester =>
  (.changed, { tester with page := (tester.page + command.count) % tester.pages })

def redraw : Handler Tester := fun _ tester =>
  (.changed, { tester with screen := tester.screen.call .clear })

/-- What the tester can carry out. -/
def handlers : Handlers Tester :=
  [(.quit, quit), (.otherCommands, turnPage), (.redraw, redraw)]

def greeting : String := "vkeys key tester: press keys, 'q' quits, 'o' shows more commands."

def meaningText : Meaning → String
  | .action action => s!"{action.label} ({action.title})"
  | .resize => "resize"
  | .unbound => "unbound"

/-- The lines about a command, unless its count is too long to be written. -/
def commandLines? (binder : Binder) (command : Command) : Option (List String) := do
  let count ← Text.writeInteger? command.count
  return [binder.table.keyboard.describe command.code,
      s!"action={meaningText command.meaning} count={count} register={command.register}"] ++
    match command.meaning with
    | .action action => [binder.describe action]
    | _ => []

def statusLines? (tester : Tester) : Option (List String) := do
  match tester.last with
  | none => return [greeting]
  | some command => return greeting :: (← commandLines? tester.binder command)

/-- Write the lines at the top of the screen. A line that is refused is left out. -/
def writeLines (window : Window Refusal) (lines : List String) : Window Refusal :=
  let limit := max 0 (window.width - 1)
  lines.zipIdx.foldl (fun window (line, y) => window.tryWrite (.limitedText y 0 line limit)) window

structure Drawing where
  tester : Tester
  frame : Frame
  records : List Journal.Record

/-- The screen before anything is drawn on it. -/
def cleared (tester : Tester) : Window Refusal := tester.screen.call .erase

/-- Draw the screen and the legend, and update the terminal. -/
def draw? (tester : Tester) : Option Drawing := do
  let screen := (writeLines tester.cleared (← tester.statusLines?)).call .refreshLater
  let drawn := tester.binder.drawLegend tester.legend entries tester.page
  return {
    tester := { tester with screen := screen.forget, legend := drawn.window.forget, terminal := [] }
    frame :=
      { screen := screen.calls
        legend := drawn.window.calls
        terminal := tester.terminal
        page := tester.page
        width := tester.legend.width
        cells := drawn.cells }
    records := drawn.records }

def obey (tester : Tester) (command : Command) : Tester × List Journal.Record :=
  let tester := { tester with last := some command }
  match command.meaning with
  | .resize => (renewLegend { tester with terminal := tester.terminal ++ [.updateSize] }, [])
  | _ =>
    let dispatched := handlers.dispatch command tester
    (dispatched.state, dispatched.records)

inductive Ending where
  /-- The tester was told to quit. -/
  | quit
  /-- There were no events left. -/
  | starved
  /-- A command has a count that is too long to be shown. -/
  | unshowable
  deriving DecidableEq, Repr

/-- A run of the tester: the tester at its end, the frames, what was noted, the events that
were left, and how it ended. -/
structure Run where
  tester : Tester
  frames : List Frame
  records : List Journal.Record
  rest : List Event
  ending : Ending

/-- Draw, read a command and carry it out, until the tester is told to quit. -/
def run (tester : Tester) (events : List Event) : Run :=
  if tester.running then
    match tester.draw? with
    | none => ⟨{ tester with screen := tester.cleared }, [], [], events, .unshowable⟩
    | some drawing =>
      -- One pass of the loop: draw, read one command, obey it, and take the resizes with the keys.
      match _read : tester.binder.readCommand true (Event.script events) with
      | ⟨command, keys, left⟩ =>
        let traced := drawing.records ++ keys.map (Journal.keyRecord tester.binder.table.keyboard)
        match _parts : Event.cut? events left with
        | none =>
          let screen := Event.applyTo drawing.tester.screen events
          ⟨{ drawing.tester with screen }, [drawing.frame], traced, [], .starved⟩
        | some (taken, rest) =>
          let seen := { drawing.tester with screen := Event.applyTo drawing.tester.screen taken }
          let (after, records) := match command with
            | none => (seen, [])
            | some command => seen.obey command
          let later := run after rest
          { later with
            frames := drawing.frame :: later.frames
            records := traced ++ records ++ later.records }
  else ⟨tester, [], [], events, .quit⟩
termination_by events.length
decreasing_by
  have shorter := Command.read_length tester.binder.limits tester.binder.table.lookup true _
    (Event.script_ne_nil events)
  simp only [Binder.readCommand] at _read
  rw [_read] at shorter
  exact Event.cut?_length events taken rest left shorter _parts

end Tester

end KeyBindings
