import KeyBindings.Binding.Table

/-!
# Default keys

Every action that never had a key gets its default keys, in the order of the actions. A
default key that is taken is a defect of the defaults or a clash with the keys that the user
chose; the walk stops there, and what it has bound so far stays bound.
-/
namespace KeyBindings

/-- A default key of this action could not be bound. -/
structure CorruptDefaults where
  action : Action
  reason : AssignError
  deriving DecidableEq, Repr

def CorruptDefaults.message (fault : CorruptDefaults) : String :=
  let label := Text.quoted fault.action.label
  let reason := fault.reason.message
  s!"Default key bindings for {label} (#{fault.action.ordinal}) are corrupt: {reason}"

namespace Table

/-- Bind some key names to an action, up to the first that is refused. -/
def assignNames (table : Table) (action : Action) : List String → Table × Option AssignError
  | [] => (table, none)
  | name :: rest =>
    match table.assign (table.keyboard.codeOf name) action with
    | .ok table => table.assignNames action rest
    | .error reason => (table, some reason)

/-- Walk some actions and give those that are missing their default keys. The result counts
the actions that got keys. -/
def fillActions (table : Table) : List Action → Nat → Table × Except CorruptDefaults Nat
  | [], filled => (table, .ok filled)
  | action :: rest, filled =>
    if table.isMissing action then
      match table.assignNames action action.defaultKeys with
      | (table, none) => table.fillActions rest (filled + 1)
      | (table, some reason) => (table, .error ⟨action, reason⟩)
    else table.fillActions rest filled

def fillMissing (table : Table) : Table × Except CorruptDefaults Nat :=
  table.fillActions Action.all 0

end Table

/-- What is noted when default keys were given to some actions. -/
def fillRecords : Except CorruptDefaults Nat → List Journal.Record
  | .ok 0 => []
  | .ok 1 => [⟨.warning, Journal.program, "Default key(s) assigned to 1 action."⟩]
  | .ok filled => [⟨.warning, Journal.program, s!"Default key(s) assigned to {filled} actions."⟩]
  | .error _ => []

end KeyBindings
