import KeyBindings.Binding.ReverseMap
import KeyBindings.Journal.Record
import KeyBindings.Key.Keyboard
import KeyBindings.Text.Quoted

/-!
# The binding table

Every action has an ordered list of key codes, the first of which the legend shows, and is
in one of three states: it has keys, the user took all of them away on purpose, or it never
had any. The reverse map says which action owns a code. A code has at most one owner, and
`assign` refuses one that is taken.
-/
namespace KeyBindings

inductive BindingState where
  | configured
  | undefined
  | missing
  deriving DecidableEq, Repr

def BindingState.name : BindingState → String
  | .configured => "configured"
  | .undefined => "undefined"
  | .missing => "missing"

structure Binding where
  state : BindingState := .missing
  codes : List Int := []
  deriving DecidableEq, Repr

/-- Why a code cannot be given to an action. -/
inductive AssignError where
  | noKeyCode (fault : CodeFault)
  | conflict (code : Int) (owner : Action) (keyName : Option String)
  deriving DecidableEq, Repr

def AssignError.message : AssignError → String
  | .noKeyCode fault => fault.message
  | .conflict code owner keyName =>
    let shown := match keyName with
      | some name => if name = "" then toString code else name
      | none => toString code
    "Key " ++ Text.quoted shown ++ " is already bound to " ++ Text.quoted owner.label

/-- The keys of every action, and the owner of every key. -/
structure Table where
  keyboard : Keyboard
  bindings : Vector Binding Action.count
  reverse : ReverseMap

namespace Table

/-- No action has had a key yet. -/
def fresh (keyboard : Keyboard) : Table :=
  ⟨keyboard, Vector.replicate Action.count {}, {}⟩

def limits (table : Table) : Limits := table.keyboard.limits

def binding (table : Table) (action : Action) : Binding := table.bindings[action.index]

def withBinding (table : Table) (action : Action) (binding : Binding) : Table :=
  { table with bindings := table.bindings.set action.index binding action.index.isLt }

def lookup (table : Table) (code : Int) : Option Action := table.reverse.get? table.limits code

def assign (table : Table) (code : Int) (action : Action) : Except AssignError Table :=
  match table.lookup code with
  | some owner => .error (.conflict code owner (table.keyboard.nameOf? code))
  | none =>
    match table.reverse.set? table.limits code action with
    | none => .error (.noKeyCode (.of code))
    | some reverse =>
      let binding := table.binding action
      .ok ({ table with reverse }.withBinding action ⟨.configured, binding.codes ++ [code]⟩)

/-- Take a code from the reverse map when this action owns it. -/
def release (table : Table) (action : Action) (code : Int) : Table :=
  if table.lookup code = some action then
    { table with reverse := table.reverse.discard table.limits code }
  else table

/-- Unbind a code from an action, if it is bound there. An action that loses its last key
is unbound on purpose. -/
def remove (table : Table) (code : Int) (action : Action) : Table :=
  let binding := table.binding action
  if code ∈ binding.codes then
    let codes := binding.codes.erase code
    let state := if codes.isEmpty then .undefined else binding.state
    (table.release action code).withBinding action ⟨state, codes⟩
  else table

/-- Unbind all codes of an action on purpose. -/
def markUndefined (table : Table) (action : Action) : Table :=
  let released := (table.binding action).codes.foldl (fun table code => table.release action code) table
  released.withBinding action ⟨.undefined, []⟩

def reset (table : Table) : Table := fresh table.keyboard

def state (table : Table) (action : Action) : BindingState := (table.binding action).state

def codes (table : Table) (action : Action) : List Int := (table.binding action).codes

def isUndefined (table : Table) (action : Action) : Bool := table.state action = .undefined

def isMissing (table : Table) (action : Action) : Bool := table.state action = .missing

/-- The names of an action's keys. A code without a name is left out. -/
def keyNames (table : Table) (action : Action) : List String :=
  (table.codes action).filterMap table.keyboard.nameOf?

/-- Stands in the keys file for the keys of an action that was unbound on purpose. -/
def undefinedMark : String := "UNDEFINED"

/-- Stands in the legend for the key of an action that has none. -/
def noKeyMark : String := "XXX"

/-- The keys of an action as the keys file writes them, each with a blank after it. -/
def allKeys (table : Table) (action : Action) : String :=
  if table.isUndefined action then undefinedMark
  else String.join ((table.keyNames action).map (· ++ " "))

def firstKey (table : Table) (action : Action) : String :=
  (table.keyNames action).headD noKeyMark

/-- The name of one of an action's keys, counted from zero. -/
def nthKey? (table : Table) (action : Action) (index : Int) : Option String :=
  if index < 0 then none else (table.keyNames action)[index.toNat]?

/-- Every bound code with its owner. -/
def boundCodes (table : Table) : List (Int × Action) := table.reverse.items

def undefinedActions (table : Table) : List Action := Action.all.filter table.isUndefined

/-- The actions that never had a key. -/
def missingActions (table : Table) : List Action := Action.all.filter table.isMissing

theorem binding_withBinding_self (table : Table) (action : Action) (binding : Binding) :
    (table.withBinding action binding).binding action = binding := by
  simp [withBinding, Table.binding]

theorem binding_withBinding_ne (table : Table) (action other : Action) (binding : Binding)
    (differ : action.index ≠ other.index) :
    (table.withBinding action binding).binding other = table.binding other := by
  have places : (action.index : Nat) ≠ other.index := fun same => differ (Fin.ext same)
  simp [withBinding, Table.binding, Vector.getElem_set_ne _ _ places]

theorem reverse_withBinding (table : Table) (action : Action) (binding : Binding) :
    (table.withBinding action binding).reverse = table.reverse := rfl

end Table

end KeyBindings
