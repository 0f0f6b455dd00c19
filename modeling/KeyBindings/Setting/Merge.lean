import KeyBindings.Setting

/-!
# Merging settings

Settings laid over others take their place, name by name. Where both have a table, the
tables are merged in turn, by one call more. The names keep the order of the lower settings,
and new names follow in the order of the upper ones.
-/
namespace KeyBindings

/-- Give a name another setting, at its place or at the end. -/
def Settings.put (name : String) (value : Setting) : Settings → Settings
  | [] => [(name, value)]
  | (other, old) :: rest =>
    if other = name then (name, value) :: rest else (other, old) :: Settings.put name value rest

mutual

/-- The setting that comes of laying `upper` over what had its name, while functions may call
themselves `calls` times more. -/
def Setting.overWithin (calls : Nat) (lower : Option Setting) : Setting → Option Setting
  | .table upper =>
    match lower, calls with
    | some (.table _), 0 => none
    | some (.table lower), calls + 1 => (Settings.mergeWithin calls lower upper).map .table
    | _, _ => some (.table upper)
  | upper => some upper

def Settings.mergeWithin (calls : Nat) (lower : List (String × Setting)) :
    List (String × Setting) → Option (List (String × Setting))
  | [] => some lower
  | (name, value) :: rest => do
    let merged ← Setting.overWithin calls (lower.lookup name) value
    Settings.mergeWithin calls (Settings.put name merged lower) rest

end

/-- Lay one setting over another. Both must be tables, except that an empty table can be laid
over a list, which then stays as it is. -/
def Setting.merge (calls : Nat) : Setting → Setting → Except SettingFault Setting
  | .list items, .table [] => .ok (.list items)
  | lower, upper => do
    match Settings.mergeWithin calls (← lower.asTable) (← upper.asTable) with
    | some merged => return .table merged
    | none => throw .tooDeep

mutual

/-- The setting at a path of names: the setting itself, or one inside its tables. -/
def Setting.at? : Setting → List String → Option Setting
  | value, [] => some value
  | .table entries, name :: rest => Settings.at? entries name rest
  | _, _ :: _ => none

/-- The setting at a path that starts with a name among some settings. -/
def Settings.at? : List (String × Setting) → String → List String → Option Setting
  | [], _, _ => none
  | (other, value) :: rest, name, path =>
    if other = name then value.at? path else Settings.at? rest name path

end

end KeyBindings
