import KeyBindings.Editing
import KeyBindings.Proofs.Binding.Consistency
import KeyBindings.Proofs.Text.Fields

/-!
# What every run keeps

Filling in default keys and loading a keys file change a table only by binding named keys and by
leaving actions without keys on purpose, also when they stop at a fault. So a property that
these steps keep is kept by the whole, and a property that every edit keeps holds of every
reachable table. Consistency is the first of them.
-/
namespace KeyBindings

/-- A key name as it can stand in a keys file. -/
def IsKeyName (name : Text.Points) : Prop := Text.IsField Text.CodePoint.isAsciiBlank name

instance (name : Text.Points) : Decidable (IsKeyName name) :=
  inferInstanceAs (Decidable (Text.IsField Text.CodePoint.isAsciiBlank name))

theorem Text.fieldsWhere_scalars (text : List Char) :
    fieldsWhere CodePoint.isAsciiBlank (text.map .scalar) =
      (fieldsWhere isAsciiBlank text).map (·.map .scalar) :=
  fieldsWhere_map CodePoint.scalar text

theorem isKeyName_points {name : String} :
    IsKeyName name ↔ Text.IsField Text.isAsciiBlank name.toList := by
  simp [IsKeyName, Text.IsField, Text.points, Text.CodePoint.isAsciiBlank]

theorem Action.isKeyName_of_mem_defaultKeys (action : Action) :
    ∀ name ∈ action.defaultKeys, IsKeyName name := by
  cases action <;> decide

/-! ### Default keys -/

namespace Table

variable {P : Table → Prop}

theorem assignNames_keeps (action : Action) (names : List String)
    (assign : ∀ table after name, P table → name ∈ names →
      table.assign (table.keyboard.codeOf name) action = .ok after → P after)
    (table : Table) (start : P table) : P (table.assignNames action names).1 := by
  induction names generalizing table with
  | nil => exact start
  | cons name rest ih =>
    have tail := ih fun before after name held member =>
      assign before after name held (List.mem_cons_of_mem _ member)
    unfold assignNames
    split
    next after assigned => exact tail after (assign table after name start (by simp) assigned)
    next => exact start

/-- A walk that stops at a fault keeps what it has bound, and so does the property. -/
theorem fillActions_keeps (actions : List Action)
    (assign : ∀ table after action name, P table → name ∈ action.defaultKeys →
      table.assign (table.keyboard.codeOf name) action = .ok after → P after)
    (table : Table) (filled : Nat) (start : P table) : P (table.fillActions actions filled).1 := by
  -- The induction follows the walk: it goes on from the table that an action leaves.
  induction actions generalizing table filled with
  | nil => exact start
  | cons action rest ih =>
    have named := assignNames_keeps action action.defaultKeys
      (fun before after name => assign before after action name) table start
    unfold fillActions
    split
    · split
      next after done =>
        rw [done] at named
        exact ih after (filled + 1) named
      next after reason done =>
        rw [done] at named
        exact named
    · exact ih table filled start

theorem fillMissing_keeps
    (assign : ∀ table after action name, P table → name ∈ action.defaultKeys →
      table.assign (table.keyboard.codeOf name) action = .ok after → P after)
    (table : Table) (start : P table) : P table.fillMissing.1 :=
  fillActions_keeps Action.all assign table 0 start

end Table

/-! ### Keys files -/

namespace KeysFile

variable {P : Table → Prop}

/-- The names that a line binds. The mark for no keys is none. -/
def namesOn (line : Text.Points) : List Text.Points :=
  match parseLine? line with
  | none => []
  | some (_, names) => if names = [Text.points Table.undefinedMark] then [] else names

theorem isKeyName_of_mem_namesOn (line : Text.Points) : ∀ name ∈ namesOn line, IsKeyName name := by
  intro name bound
  unfold namesOn at bound
  split at bound
  · cases bound
  next label names parsed =>
    split at bound
    · cases bound
    unfold parseLine? at parsed
    split at parsed
    · cases parsed
    next first fields cut =>
      split at parsed
      · cases parsed
      · obtain ⟨-, rfl⟩ := Prod.mk.inj (Option.some.inj parsed)
        exact Text.isField_of_mem_fieldsWhere line name (cut ▸ List.mem_cons_of_mem _ bound)

theorem bindNames_keeps (number : Nat) (action : Action) (names : List Text.Points)
    (assign : ∀ table after name, P table → name ∈ names →
      table.assign (table.keyboard.codeOfPoints name) action = .ok after → P after)
    (loading : Loading) (start : P loading.table) :
    P (names.foldl (fun loading name => loading.bindName number action name) loading).table := by
  induction names generalizing loading with
  | nil => exact start
  | cons name rest ih =>
    have step : P (loading.bindName number action name).table := by
      unfold Loading.bindName
      split
      next after assigned => exact assign _ after name start (by simp) assigned
      next => exact start
    exact ih (fun before after name held member =>
      assign before after name held (List.mem_cons_of_mem _ member)) _ step

theorem label_of_actionOf? {label : Text.Points} {action : Action}
    (found : actionOf? label = some action) : label = action.label := by
  obtain ⟨text, isText, named⟩ := Option.bind_eq_some_iff.mp found
  unfold Action.ofLabel? at named
  have same := List.find?_some named
  rw [Text.string?_eq_some_iff.mp isText, eq_of_beq same]

/-- A line changes a table only by what it says under the label of an action. -/
theorem readLine_follows (loading : Loading) (number : Nat) (line : Text.Points)
    (markUndefined : ∀ table action, P table →
      parseLine? line = some (↑action.label, [Text.points Table.undefinedMark]) →
      P (table.markUndefined action))
    (assign : ∀ table after action names name, P table → parseLine? line = some (↑action.label, names) →
      names ≠ [Text.points Table.undefinedMark] → name ∈ names →
      table.assign (table.keyboard.codeOfPoints name) action = .ok after → P after)
    (start : P loading.table) : P (loading.readLine number line).table := by
  unfold Loading.readLine
  split
  · exact start
  next label names parsed =>
    split
    · exact start
    next action found =>
      obtain rfl := label_of_actionOf? found
      split
      · exact start
      · split
        next marked => exact markUndefined loading.table action start (marked ▸ parsed)
        -- Only here keys are bound, and only those that the line names.
        next unmarked =>
          exact bindNames_keeps number action names (fun before after name held member =>
            assign before after action names name held parsed unmarked member) loading start

theorem readLines_follows (lines : List Text.Points)
    (markUndefined : ∀ line ∈ lines, ∀ table action, P table →
      parseLine? line = some (↑action.label, [Text.points Table.undefinedMark]) →
      P (table.markUndefined action))
    (assign : ∀ line ∈ lines, ∀ table after action names name, P table →
      parseLine? line = some (↑action.label, names) → names ≠ [Text.points Table.undefinedMark] →
      name ∈ names →
      table.assign (table.keyboard.codeOfPoints name) action = .ok after → P after)
    (loading : Loading) (number : Nat) (start : P loading.table) :
    P (loading.readLines number lines).table := by
  induction lines generalizing loading number with
  | nil => exact start
  | cons line rest ih =>
    -- One line keeps the property, and the other lines start from what it leaves.
    have step := readLine_follows loading number line (markUndefined line List.mem_cons_self)
      (assign line List.mem_cons_self) start
    exact ih (fun other member => markUndefined other (List.mem_cons_of_mem _ member))
      (fun other member => assign other (List.mem_cons_of_mem _ member)) _ (number + 1) step

section

variable (markUndefined : ∀ table action, P table → P (table.markUndefined action))
include markUndefined

theorem readLines_keeps (lines : List Text.Points)
    (assign : ∀ table after action name, P table → (∃ line ∈ lines, name ∈ namesOn line) →
      table.assign (table.keyboard.codeOfPoints name) action = .ok after → P after)
    (loading : Loading) (number : Nat) (start : P loading.table) :
    P (loading.readLines number lines).table := by
  refine readLines_follows lines (fun _ _ table action held _ => markUndefined table action held) ?_
    loading number start
  intro line member before after action names name held parsed unmarked isName assigned
  have onLine : namesOn line = names := by simp only [namesOn, parsed, if_neg unmarked]
  exact assign before after action name held ⟨line, member, onLine ▸ isName⟩ assigned

theorem load_keeps (table : Table) (lines : List Text.Points)
    (assign : ∀ table after action name, P table → (∃ line ∈ lines, name ∈ namesOn line) →
      table.assign (table.keyboard.codeOfPoints name) action = .ok after → P after)
    (start : P table) : P (load table lines).table :=
  readLines_keeps markUndefined lines assign ⟨table, {}⟩ 1 start

end

end KeysFile

/-! ### Edits -/

namespace Table

section

variable {P : Table → Prop}
  (assign : ∀ table after code action, P table → table.assign code action = .ok after → P after)
  (remove : ∀ table code action, P table → P (table.remove code action))
  (markUndefined : ∀ table action, P table → P (table.markUndefined action))
  (reset : ∀ table, P table → P table.reset)
include assign remove markUndefined reset

theorem edit_keeps (table : Table) (edit : Edit) (start : P table) : P (table.edit edit) := by
  cases edit with
  | assign code action =>
    simp only [Table.edit]
    cases assigned : table.assign code action with
    | ok after => exact assign table after code action start assigned
    | error reason => exact start
  | remove code action => exact remove table code action start
  | markUndefined action => exact markUndefined table action start
  | reset => exact reset table start
  -- Defaults and files bind by names, which is binding by codes.
  | fillMissing =>
    exact fillMissing_keeps (fun before after action name held _ =>
      assign before after _ action held) table start
  | load lines =>
    exact KeysFile.load_keeps markUndefined table lines (fun before after action name held _ =>
      assign before after _ action held) start

theorem editAll_keeps (table : Table) (edits : List Edit) (start : P table) :
    P (table.editAll edits) := by
  induction edits generalizing table with
  | nil => exact start
  | cons edit rest ih =>
    exact ih (table.edit edit) (edit_keeps assign remove markUndefined reset table edit start)

end

theorem keyboard_editAll (table : Table) (edits : List Edit) :
    (table.editAll edits).keyboard = table.keyboard := by
  refine editAll_keeps (P := fun after => after.keyboard = table.keyboard) ?_ ?_ ?_ ?_ table edits rfl
  · exact fun _ _ _ _ held assigned => (keyboard_assign assigned).trans held
  · exact fun _ _ _ held => (keyboard_remove _ _ _).trans held
  · exact fun _ _ held => (keyboard_markUndefined _ _).trans held
  · exact fun _ held => held

end Table

end KeyBindings
