import KeyBindings.Proofs.Binding.Defaults
import KeyBindings.Proofs.KeysFile.Returned

/-!
# Actions that were unbound on purpose

An action without keys on purpose gets a key only when one is given to it. Edits of other actions,
default keys and a restart from the keys file leave it as it is, whatever keys the others have.
-/
namespace KeyBindings

open Keyboard (usual)

/-- What happens to a table: an edit, or a restart from its own keys file. -/
inductive TableStep where
  | edit (edit : Edit)
  | reload
  deriving DecidableEq, Repr

namespace TableStep

/-- Does a step give no key to an action, and neither start afresh nor read a file of others? -/
def Spares (action : Action) : TableStep → Prop
  | .edit (.assign _ owner) => owner ≠ action
  | .edit (.remove _ _) | .edit (.markUndefined _) | .edit .fillMissing | .reload => True
  | .edit .reset | .edit (.load _) => False

end TableStep

namespace Table

variable {table : Table} {action : Action}

def step (table : Table) : TableStep → Table
  | .edit edit => table.edit edit
  | .reload => table.reload

theorem reload_eq_editAll (table : Table) :
    table.reload = (fresh table.keyboard).editAll [.load (KeysFile.textLines (KeysFile.render table))] := by
  rw [reload, KeysFile.loadText, editAll, List.foldl_cons, List.foldl_nil, Table.edit]

theorem keyboard_step (table : Table) (step : TableStep) : (table.step step).keyboard = table.keyboard := by
  cases step with
  | edit edit => exact keyboard_editAll table [edit]
  | reload =>
    rw [Table.step, reload_eq_editAll]
    exact keyboard_editAll (fresh table.keyboard) _

theorem IsReachable.step (reachable : table.IsReachable) (step : TableStep) :
    (table.step step).IsReachable := by
  rw [IsReachable, keyboard_step]
  cases step with
  | edit edit =>
    obtain ⟨edits, same⟩ := reachable
    refine ⟨edits ++ [edit], ?_⟩
    rw [editAll, List.foldl_append]
    exact congrArg (Table.edit · edit) same
  | reload => exact ⟨_, reload_eq_editAll table⟩

/-- A reachable table in which an action has no keys on purpose. -/
structure Unbound (table : Table) (action : Action) : Prop where
  keyboard_eq : table.keyboard = usual
  reachable : table.IsReachable
  binding_eq : table.binding action = ⟨.undefined, []⟩

theorem Unbound.of_state (keyboard : table.keyboard = usual) (reachable : table.IsReachable)
    (unbound : table.state action = .undefined) : table.Unbound action := by
  have consistent := reachable.consistent (Keyboard.keyMin_pos keyboard)
  have none : table.codes action = [] := consistent.codes_eq_nil (by simp [unbound])
  refine ⟨keyboard, reachable, ?_⟩
  rw [← unbound, ← none]
  rfl

theorem Unbound.lookup_ne (held : table.Unbound action) (code : Int) :
    table.lookup code ≠ some action := by
  have consistent := held.reachable.consistent (Keyboard.keyMin_pos held.keyboard_eq)
  rw [ne_eq, consistent.owner_iff, codes, held.binding_eq]
  exact List.not_mem_nil

/-- An edit that gives the action no key leaves its binding alone. -/
theorem binding_edit_spared {edit : Edit} (unbound : table.binding action = ⟨.undefined, []⟩)
    (spares : (TableStep.edit edit).Spares action) :
    (table.edit edit).binding action = ⟨.undefined, []⟩ := by
  cases edit with
  | assign code owner =>
    rw [Table.edit]
    cases assigned : table.assign code owner with
    | ok after => exact (binding_assign assigned action).trans ((if_neg (Ne.symm spares)).trans unbound)
    | error reason => exact unbound
  | remove code owner =>
    rw [Table.edit, binding_remove]
    split
    next here =>
      -- The action has no code that could be removed.
      rw [← here.1, codes, unbound] at here
      exact absurd here.2 List.not_mem_nil
    · exact unbound
  | markUndefined owner =>
    rw [Table.edit, binding_markUndefined]
    split
    · rfl
    · exact unbound
  | fillMissing =>
    have present : table.isMissing action = false := by simp [isMissing, state, unbound]
    exact (binding_fillMissing present).trans unbound
  | reset => exact spares.elim
  | load lines => exact spares.elim

theorem Unbound.step (held : table.Unbound action) {step : TableStep} (spares : step.Spares action) :
    (table.step step).Unbound action := by
  refine ⟨(keyboard_step table step).trans held.keyboard_eq, held.reachable.step step, ?_⟩
  cases step with
  | edit edit => exact binding_edit_spared held.binding_eq spares
  | reload =>
    exact KeysFile.reload_undefined held.keyboard_eq (congrArg Binding.state held.binding_eq)

theorem Unbound.run (held : table.Unbound action) (steps : List TableStep)
    (spares : ∀ step ∈ steps, step.Spares action) :
    ∀ reached ∈ steps.scanl Table.step table, reached.Unbound action := by
  induction steps generalizing table with
  | nil =>
    intro reached member
    rw [List.scanl_nil] at member
    exact List.mem_singleton.mp member ▸ held
  | cons step rest ih =>
    intro reached member
    rw [List.scanl_cons] at member
    rcases List.mem_cons.mp member with rfl | later
    · exact held
    · have next := held.step (spares step List.mem_cons_self)
      exact ih next (fun other inRest => spares other (List.mem_cons_of_mem _ inRest)) reached later

/-- An action without keys on purpose stays without keys in every table of a run, as long as no step
gives it one. The steps are edits of any keys, also refused ones, filling in default keys, also when that
stops at a fault, and restarts from the keys file of the table that was reached. -/
theorem undefined_run (table : Table) (keyboard : table.keyboard = usual)
    (reachable : table.IsReachable) (action : Action) (unbound : table.state action = .undefined)
    (steps : List TableStep) (spares : ∀ step ∈ steps, step.Spares action) :
    ∀ reached ∈ steps.scanl Table.step table,
      reached.state action = .undefined ∧ reached.codes action = [] ∧
        ∀ code, reached.lookup code ≠ some action := by
  intro reached member
  have held := (Unbound.of_state keyboard reachable unbound).run steps spares reached member
  rw [state, codes, held.binding_eq]
  exact ⟨rfl, rfl, held.lookup_ne⟩

/-- A line feed and a number sign are keys of one action and break its line in the file, filling in stops
at a default key that is taken, and two restarts follow. -/
theorem undefined_run_broken :
    let table := (Table.fresh usual).editAll [.assign 521 .quit, .assign 546 .quit, .markUndefined .help]
    let steps : List TableStep := [.edit (.assign 64 .quit), .edit .fillMissing, .reload,
      .edit (.remove 521 .quit), .reload]
    table.state .help = .undefined ∧ (∀ step ∈ steps, step.Spares .help) ∧
      ∀ reached ∈ steps.scanl Table.step table,
        reached.state .help = .undefined ∧ reached.codes .help = [] ∧
          ∀ code, reached.lookup code ≠ some .help := by
  intro table steps
  have spares : ∀ step ∈ steps, step.Spares .help := by
    simp [steps, TableStep.Spares]
  exact ⟨rfl, spares, undefined_run table rfl ⟨_, rfl⟩ .help rfl steps spares⟩

end Table

end KeyBindings
