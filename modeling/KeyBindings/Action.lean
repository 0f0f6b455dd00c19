/-!
# Actions

The closed set of things a key can be bound to. Each has a label that the keys file writes,
the names of its default keys, a title of at most eight cells for the legend and a sentence
of help. Their order is fixed: it numbers the actions and orders the keys file.
-/
namespace KeyBindings

inductive Action where
  | cancel
  | select
  | credits
  | help
  | quit
  | save
  | reload
  | copy
  | paste
  | changeView
  | previousView
  | importData
  | exportData
  | goto
  | otherCommands
  | configMenu
  | redraw
  | addAppointment
  | addTodo
  | previousDay
  | nextDay
  | previousWeek
  | nextWeek
  | previousMonth
  | nextMonth
  | previousYear
  | nextYear
  | scrollDown
  | scrollUp
  | today
  | command
  | moveRight
  | moveLeft
  | moveDown
  | moveUp
  | weekStart
  | weekEnd
  | addItem
  | deleteItem
  | editItem
  | viewItem
  | pipeItem
  | flagItem
  | repeatItem
  | editNote
  | viewNote
  | raisePriority
  | lowerPriority
  deriving DecidableEq, Repr

/-- What is written and shown of an action. -/
structure ActionInfo where
  label : String
  defaultKeys : List String
  title : String
  help : String
  deriving Repr

namespace Action

def info : Action → ActionInfo
  | .cancel =>
    ⟨"generic-cancel", ["ESC"], "Cancel",
     "Cancel the ongoing action."⟩
  | .select =>
    ⟨"generic-select", ["SPC"], "Select",
     "Select the highlighted item."⟩
  | .credits =>
    ⟨"generic-credits", ["@"], "Credits",
     "Print general information about the authors, license, etc."⟩
  | .help =>
    ⟨"generic-help", ["?"], "Help",
     "Display hints whenever some help screens are available."⟩
  | .quit =>
    ⟨"generic-quit", ["q", "Q"], "Quit",
     "Exit from the current menu, or quit."⟩
  | .save =>
    ⟨"generic-save", ["s", "S", "^S"], "Save",
     "Save data."⟩
  | .reload =>
    ⟨"generic-reload", ["R"], "Reload",
     "Reload appointments and todo items."⟩
  | .copy =>
    ⟨"generic-copy", ["c"], "Copy",
     "Copy the item that is currently selected."⟩
  | .paste =>
    ⟨"generic-paste", ["p", "^V"], "Paste",
     "Paste an item at the current position."⟩
  | .changeView =>
    ⟨"generic-change-view", ["TAB"], "Chg Win",
     "Select next panel in the main screen."⟩
  | .previousView =>
    ⟨"generic-prev-view", ["KEY_BTAB"], "Prev Win",
     "Select previous panel in the main screen."⟩
  | .importData =>
    ⟨"generic-import", ["i", "I"], "Import",
     "Import data from an external file."⟩
  | .exportData =>
    ⟨"generic-export", ["x", "X"], "Export",
     "Export data to a new file format."⟩
  | .goto =>
    ⟨"generic-goto", ["g", "G"], "Go to",
     "Select the day to go to."⟩
  | .otherCommands =>
    ⟨"generic-other-cmd", ["o", "O"], "OtherCmd",
     "Show next possible actions inside status bar."⟩
  | .configMenu =>
    ⟨"generic-config-menu", ["C"], "Config",
     "Enter the configuration menu."⟩
  | .redraw =>
    ⟨"generic-redraw", ["^R"], "Redraw",
     "Redraw the screen."⟩
  | .addAppointment =>
    ⟨"generic-add-appt", ["^A"], "Add Appt",
     "Add an appointment, whichever panel is currently selected."⟩
  | .addTodo =>
    ⟨"generic-add-todo", ["^T"], "Add Todo",
     "Add a todo item, whichever panel is currently selected."⟩
  | .previousDay =>
    ⟨"generic-prev-day", ["T", "^H"], "-1 Day",
     "Move to previous day in calendar, whichever panel is currently selected."⟩
  | .nextDay =>
    ⟨"generic-next-day", ["t", "^L"], "+1 Day",
     "Move to next day in calendar, whichever panel is currently selected."⟩
  | .previousWeek =>
    ⟨"generic-prev-week", ["W", "^K"], "-1 Week",
     "Move to previous week in calendar, whichever panel is currently selected."⟩
  | .nextWeek =>
    ⟨"generic-next-week", ["w"], "+1 Week",
     "Move to next week in calendar, whichever panel is currently selected."⟩
  | .previousMonth =>
    ⟨"generic-prev-month", ["M"], "-1 Month",
     "Move to previous month in calendar, whichever panel is currently selected."⟩
  | .nextMonth =>
    ⟨"generic-next-month", ["m"], "+1 Month",
     "Move to next month in calendar, whichever panel is currently selected."⟩
  | .previousYear =>
    ⟨"generic-prev-year", ["Y"], "-1 Year",
     "Move to previous year in calendar, whichever panel is currently selected."⟩
  | .nextYear =>
    ⟨"generic-next-year", ["y"], "+1 Year",
     "Move to next year in calendar, whichever panel is currently selected."⟩
  | .scrollDown =>
    ⟨"generic-scroll-down", ["^N"], "Nxt View",
     "Scroll window down (e.g. when displaying text inside a popup window)."⟩
  | .scrollUp =>
    ⟨"generic-scroll-up", ["^P"], "Prv View",
     "Scroll window up (e.g. when displaying text inside a popup window)."⟩
  | .today =>
    ⟨"generic-goto-today", ["^G"], "Today",
     "Go to today, whichever panel is selected."⟩
  | .command =>
    ⟨"generic-command", [":"], "Command",
     "Enter command mode."⟩
  | .moveRight =>
    ⟨"move-right", ["l", "L", "RGT"], "Right",
     "Move to the right."⟩
  | .moveLeft =>
    ⟨"move-left", ["h", "H", "LFT"], "Left",
     "Move to the left."⟩
  | .moveDown =>
    ⟨"move-down", ["j", "J", "DWN"], "Down",
     "Move down."⟩
  | .moveUp =>
    ⟨"move-up", ["k", "K", "UP"], "Up",
     "Move up."⟩
  | .weekStart =>
    ⟨"start-of-week", ["0"], "beg Week",
     "Select the first day of the current week when inside the calendar panel."⟩
  | .weekEnd =>
    ⟨"end-of-week", ["$"], "end Week",
     "Select the last day of the current week when inside the calendar panel."⟩
  | .addItem =>
    ⟨"add-item", ["a", "A"], "Add Item",
     "Add an item to the currently selected panel."⟩
  | .deleteItem =>
    ⟨"del-item", ["d", "D"], "Del Item",
     "Delete the currently selected item."⟩
  | .editItem =>
    ⟨"edit-item", ["e", "E"], "Edit Itm",
     "Edit the currently selected item."⟩
  | .viewItem =>
    ⟨"view-item", ["v", "V", "RET"], "View",
     "Display the currently selected item inside a popup window."⟩
  | .pipeItem =>
    ⟨"pipe-item", ["|"], "Pipe",
     "Pipe the currently selected item to an external program."⟩
  | .flagItem =>
    ⟨"flag-item", ["!"], "Flag Itm",
     "Flag the currently selected item as important."⟩
  | .repeatItem =>
    ⟨"repeat", ["r"], "Repeat",
     "Repeat an item."⟩
  | .editNote =>
    ⟨"edit-note", ["n", "N"], "EditNote",
     "Attach (or edit if one exists) a note to the currently selected item."⟩
  | .viewNote =>
    ⟨"view-note", [">"], "ViewNote",
     "View the note attached to the currently selected item."⟩
  | .raisePriority =>
    ⟨"raise-priority", ["+"], "Prio.+",
     "Raise a task priority inside the todo panel."⟩
  | .lowerPriority =>
    ⟨"lower-priority", ["-"], "Prio.-",
     "Lower a task priority inside the todo panel."⟩

def label (action : Action) : String := action.info.label
def defaultKeys (action : Action) : List String := action.info.defaultKeys
def title (action : Action) : String := action.info.title

/-- The default keys as the keys file writes them. -/
def defaultBinding (action : Action) : String := " ".intercalate action.defaultKeys

def ordinal (action : Action) : Nat := action.ctorIdx

def count : Nat := 48

theorem ordinal_lt (action : Action) : action.ordinal < count := by
  cases action <;> decide

/-- The number of an action, as a place among all of them. -/
def index (action : Action) : Fin count := ⟨action.ordinal, action.ordinal_lt⟩

def all : List Action :=
  [.cancel, .select, .credits, .help, .quit, .save, .reload, .copy, .paste, .changeView,
   .previousView, .importData, .exportData, .goto, .otherCommands, .configMenu, .redraw,
   .addAppointment, .addTodo, .previousDay, .nextDay, .previousWeek, .nextWeek, .previousMonth,
   .nextMonth, .previousYear, .nextYear, .scrollDown, .scrollUp, .today, .command, .moveRight,
   .moveLeft, .moveDown, .moveUp, .weekStart, .weekEnd, .addItem, .deleteItem, .editItem,
   .viewItem, .pipeItem, .flagItem, .repeatItem, .editNote, .viewNote, .raisePriority,
   .lowerPriority]

theorem mem_all (action : Action) : action ∈ all := by
  cases action <;> decide

theorem all_ordinal : all.map ordinal = List.range count := by decide

def ofLabel? (label : String) : Option Action := all.find? fun action => action.label == label

/-- The constant that names an action: its label in capitals, with two exceptions. -/
def tag : Action → String
  | .command => "GENERIC_CMD"
  | .repeatItem => "REPEAT_ITEM"
  | action => action.label.map fun c => if c = '-' then '_' else c.toUpper

end Action

end KeyBindings
