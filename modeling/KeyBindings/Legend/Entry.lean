import KeyBindings.Binding.Table

/-!
# Entries of the legend

The legend shows actions, each with its first key, and a few entries of the key configuration
menu, whose keys are fixed.
-/
namespace KeyBindings

inductive MenuEntry where
  | general
  | layout
  | sidebar
  | color
  | notify
  | keys
  deriving DecidableEq, Repr

namespace MenuEntry

def tag : MenuEntry → String
  | .general => "GENERAL"
  | .layout => "LAYOUT"
  | .sidebar => "SIDEBAR"
  | .color => "COLOR"
  | .notify => "NOTIFY"
  | .keys => "KEYS"

def keyText : MenuEntry → String
  | .general => "g"
  | .layout => "l"
  | .sidebar => "s"
  | .color => "c"
  | .notify => "n"
  | .keys => "k"

def title : MenuEntry → String
  | .general => "General"
  | .layout => "Layout"
  | .sidebar => "Sidebar"
  | .color => "Color"
  | .notify => "Notify"
  | .keys => "Keys"

def all : List MenuEntry := [.general, .layout, .sidebar, .color, .notify, .keys]

def ofTag? (tag : String) : Option MenuEntry := all.find? fun entry => entry.tag == tag

end MenuEntry

inductive LegendEntry where
  | action (action : Action)
  | menu (entry : MenuEntry)
  deriving DecidableEq, Repr

namespace LegendEntry

def title : LegendEntry → String
  | .action bound => bound.title
  | .menu entry => entry.title

/-- The key that is shown for an entry. -/
def keyText (table : Table) : LegendEntry → String
  | .action bound => table.firstKey bound
  | .menu entry => entry.keyText

/-- An entry as the journal shows it. -/
def description : LegendEntry → String
  | .action bound => s!"<VirtualKey.{bound.tag}: {bound.ordinal}>"
  | .menu entry =>
    let shown := "(" ++ Text.quoted entry.keyText ++ ", " ++ Text.quoted entry.title ++ ")"
    s!"<MenuEntry.{entry.tag}: {shown}>"

end LegendEntry

end KeyBindings
