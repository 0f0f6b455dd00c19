import KeyBindings.Proofs.Binding.Runs

/-!
# Who owns a key

Whatever is done to a table, refused calls and walks that stop halfway included, a key has at most
one owner: the action in whose list it stands. The reverse map answers with that owner.
-/
namespace KeyBindings.Table

theorem consistent_editAll (keyboard : Keyboard) (positive : 1 ≤ keyboard.limits.keyMin)
    (edits : List Edit) : ((fresh keyboard).editAll edits).Consistent := by
  -- The invariant carries the keyboard along, since its limits choose the store of every code.
  let P (table : Table) : Prop := table.keyboard = keyboard ∧ table.Consistent
  have limits : ∀ table, P table → 1 ≤ table.limits.keyMin := fun table held => by
    rw [Table.limits, held.1]
    exact positive
  have run : P ((fresh keyboard).editAll edits) := by
    refine editAll_keeps ?_ ?_ ?_ ?_ (fresh keyboard) edits ⟨rfl, .fresh keyboard⟩
    · intro table after code action held assigned
      exact ⟨(keyboard_assign assigned).trans held.1, held.2.assign (limits table held) assigned⟩
    · intro table code action held
      exact ⟨(keyboard_remove table code action).trans held.1,
        held.2.remove (limits table held) code action⟩
    · intro table action held
      exact ⟨(keyboard_markUndefined table action).trans held.1,
        held.2.markUndefined (limits table held) action⟩
    · intro table held
      exact ⟨held.1, .fresh table.keyboard⟩
  exact run.2

theorem IsReachable.consistent {table : Table} (reachable : table.IsReachable)
    (positive : 1 ≤ table.limits.keyMin) : table.Consistent := by
  obtain ⟨edits, same⟩ := reachable
  rw [same]
  exact consistent_editAll table.keyboard positive edits

/-- After any run of edits of a fresh table the reverse map names exactly the action in whose list
a code stands, no code stands twice in one list or in two, only key codes are bound, and an action
is configured exactly when its list is not empty. -/
theorem editAll_ownership (keyboard : Keyboard) (positive : 1 ≤ keyboard.limits.keyMin)
    (edits : List Edit) :
    let table := (fresh keyboard).editAll edits
    (∀ code action, table.lookup code = some action ↔ code ∈ table.codes action) ∧
    (∀ action, (table.codes action).Nodup) ∧
    (∀ code action other, code ∈ table.codes action → code ∈ table.codes other → action = other) ∧
    (∀ action, ∀ code ∈ table.codes action, keyboard.limits.isValid code = true) ∧
    (∀ action, table.state action = .configured ↔ table.codes action ≠ []) := by
  intro table
  have consistent := consistent_editAll keyboard positive edits
  have limits : table.limits = keyboard.limits :=
    congrArg Keyboard.limits (keyboard_editAll (fresh keyboard) edits)
  refine ⟨consistent.owner_iff, consistent.distinct, ?_, ?_, consistent.configured_iff⟩
  · exact fun code action other mine theirs => consistent.unshared mine theirs
  · exact fun action code bound => limits ▸ consistent.valid bound

/-- A run with a conflict, a line that takes a key away and default keys that clash with it. -/
theorem editAll_ownership_conflict :
    let keyboard : Keyboard := ⟨{}, Terminal.usualName⟩
    let edits : List Edit := [.assign 113 .help, .assign 113 .quit, .remove 113 .help,
      .load ["generic-copy  q foo"], .fillMissing, .markUndefined .copy]
    1 ≤ keyboard.limits.keyMin ∧
      ∀ code action, ((fresh keyboard).editAll edits).lookup code = some action ↔
        code ∈ ((fresh keyboard).editAll edits).codes action :=
  ⟨by decide, (editAll_ownership ⟨{}, Terminal.usualName⟩ (by decide) _).1⟩

end KeyBindings.Table
