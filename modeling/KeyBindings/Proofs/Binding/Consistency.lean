import KeyBindings.Binding.Table
import KeyBindings.Proofs.Binding.ReverseMap
import Mathlib.Data.List.Nodup

/-!
# Forward lists and reverse map agree

The keys of every action stand in a list of their own, and the reverse map holds the owner of
every key. Each change to a table writes both. A table is consistent when the two say the same,
and every change keeps it so.
-/
namespace KeyBindings

namespace Action

private theorem ordinals_nodup : (all.map ordinal).Nodup := by
  rw [all_ordinal]
  exact List.nodup_range

theorem all_nodup : all.Nodup := List.Nodup.of_map ordinal ordinals_nodup

theorem ordinal_injective (action other : Action) (same : action.ordinal = other.ordinal) :
    action = other :=
  List.inj_on_of_nodup_map ordinals_nodup (mem_all action) (mem_all other) same

end Action

namespace Table

variable {table after : Table} {code : Int} {action : Action}

/-! ### What each change does to the answers of a table -/

theorem binding_withBinding (table : Table) (action other : Action) (binding : Binding) :
    (table.withBinding action binding).binding other =
      if other = action then binding else table.binding other := by
  by_cases same : other = action
  · subst same
    rw [binding_withBinding_self, if_pos rfl]
  · rw [if_neg same]
    refine binding_withBinding_ne table action other binding fun equal => same ?_
    exact (Action.ordinal_injective action other (congrArg Fin.val equal)).symm

@[simp] theorem keyboard_withBinding (table : Table) (action : Action) (binding : Binding) :
    (table.withBinding action binding).keyboard = table.keyboard := rfl

@[simp] theorem lookup_withBinding (table : Table) (action : Action) (binding : Binding)
    (code : Int) : (table.withBinding action binding).lookup code = table.lookup code := rfl

@[simp] theorem binding_fresh (keyboard : Keyboard) (action : Action) :
    (fresh keyboard).binding action = {} := by
  simp [fresh, Table.binding]

@[simp] theorem lookup_fresh (keyboard : Keyboard) (code : Int) :
    (fresh keyboard).lookup code = none := by
  simp [fresh, lookup]

theorem assign_ok (assigned : table.assign code action = .ok after) :
    table.lookup code = none ∧ ∃ reverse, table.reverse.set? table.limits code action = some reverse ∧
      after = { table with reverse }.withBinding action ⟨.configured, table.codes action ++ [code]⟩ := by
  unfold assign at assigned
  split at assigned
  · cases assigned
  next free =>
    split at assigned
    · cases assigned
    next reverse set => exact ⟨free, reverse, set, (Except.ok.inj assigned).symm⟩

theorem keyboard_assign (assigned : table.assign code action = .ok after) :
    after.keyboard = table.keyboard := by
  obtain ⟨_, reverse, _, rfl⟩ := assign_ok assigned
  rfl

theorem limits_assign (assigned : table.assign code action = .ok after) : after.limits = table.limits :=
  congrArg Keyboard.limits (keyboard_assign assigned)

theorem binding_assign (assigned : table.assign code action = .ok after) (other : Action) :
    after.binding other =
      if other = action then ⟨.configured, table.codes action ++ [code]⟩ else table.binding other := by
  obtain ⟨_, reverse, _, rfl⟩ := assign_ok assigned
  exact binding_withBinding _ _ _ _

theorem codes_assign (assigned : table.assign code action = .ok after) (other : Action) :
    after.codes other =
      if other = action then table.codes action ++ [code] else table.codes other := by
  rw [codes, binding_assign assigned]
  split <;> rfl

theorem lookup_assign (positive : 1 ≤ table.limits.keyMin)
    (assigned : table.assign code action = .ok after) (other : Int) :
    after.lookup other = if other = code then some action else table.lookup other := by
  obtain ⟨_, reverse, set, rfl⟩ := assign_ok assigned
  exact ReverseMap.get?_set? positive _ _ _ _ _ set

theorem mem_codes_of_assign {other : Action} {kept : Int}
    (assigned : table.assign code action = .ok after) (held : kept ∈ after.codes other) :
    kept ∈ table.codes other ∨ other = action ∧ kept = code := by
  rw [codes_assign assigned] at held
  split at held
  next here =>
    rcases List.mem_append.mp held with old | new
    · exact .inl (here ▸ old)
    · exact .inr ⟨here, List.mem_singleton.mp new⟩
  · exact .inl held

theorem assign_free (free : table.lookup code = none) (valid : table.limits.isValid code = true)
    (action : Action) : ∃ after, table.assign code action = .ok after := by
  rw [← ReverseMap.set?_isSome table.reverse code action, Option.isSome_iff_exists] at valid
  obtain ⟨reverse, set⟩ := valid
  simp only [assign, free, set]
  exact ⟨_, rfl⟩

theorem assign_invalid (invalid : table.limits.isValid code = false) (action : Action) :
    table.assign code action = .error (.noKeyCode (.of code)) := by
  obtain ⟨refused, -, unowned⟩ := ReverseMap.call_invalid invalid table.reverse
  have free : table.lookup code = none := unowned
  simp only [assign, free, refused action]

/-- A key code is refused only for its owner. -/
theorem assign_refused {reason : AssignError} (valid : table.limits.isValid code = true)
    (refused : table.assign code action = .error reason) :
    ∃ owner, table.lookup code = some owner ∧
      reason = .conflict code owner (table.keyboard.nameOf? code) := by
  cases owned : table.lookup code with
  | none =>
    obtain ⟨next, assigned⟩ := assign_free owned valid action
    rw [assigned] at refused
    cases refused
  | some owner =>
    simp only [assign, owned] at refused
    exact ⟨owner, rfl, (Except.error.inj refused).symm⟩

@[simp] theorem keyboard_release (table : Table) (action : Action) (code : Int) :
    (table.release action code).keyboard = table.keyboard := by
  unfold release
  split <;> rfl

theorem limits_release (table : Table) (action : Action) (code : Int) :
    (table.release action code).limits = table.limits :=
  congrArg Keyboard.limits (keyboard_release table action code)

@[simp] theorem bindings_release (table : Table) (action : Action) (code : Int) :
    (table.release action code).bindings = table.bindings := by
  unfold release
  split <;> rfl

theorem lookup_release (positive : 1 ≤ table.limits.keyMin) (action : Action) (code other : Int) :
    (table.release action code).lookup other =
      if other = code ∧ table.lookup code = some action then none else table.lookup other := by
  unfold release
  split
  next owned =>
    simp only [owned, and_true]
    exact ReverseMap.get?_discard positive _ _ _
  next foreign => simp only [foreign, and_false, if_false]

theorem remove_bound (bound : code ∈ table.codes action) :
    table.remove code action = (table.release action code).withBinding action
      ⟨if ((table.codes action).erase code).isEmpty then .undefined else table.state action,
        (table.codes action).erase code⟩ :=
  if_pos bound

theorem remove_absent (absent : code ∉ table.codes action) : table.remove code action = table :=
  if_neg absent

theorem keyboard_remove (table : Table) (code : Int) (action : Action) :
    (table.remove code action).keyboard = table.keyboard := by
  by_cases bound : code ∈ table.codes action
  · rw [remove_bound bound, keyboard_withBinding, keyboard_release]
  · rw [remove_absent bound]

theorem limits_remove (table : Table) (code : Int) (action : Action) :
    (table.remove code action).limits = table.limits :=
  congrArg Keyboard.limits (keyboard_remove table code action)

/-- Nothing changes unless the code is bound to the action; then the list loses it, and an
empty list leaves the action without keys on purpose. -/
theorem binding_remove (table : Table) (code : Int) (action other : Action) :
    (table.remove code action).binding other =
      if other = action ∧ code ∈ table.codes action then
        ⟨if ((table.codes action).erase code).isEmpty then .undefined else table.state action,
          (table.codes action).erase code⟩
      else table.binding other := by
  by_cases bound : code ∈ table.codes action
  · have kept : (table.release action code).binding other = table.binding other := by
      simp only [Table.binding, bindings_release]
    rw [remove_bound bound, binding_withBinding, kept]
    simp only [bound, and_true]
  · rw [remove_absent bound]
    simp only [bound, and_false, if_false]

theorem codes_remove (bound : code ∈ table.codes action) (other : Action) :
    (table.remove code action).codes other =
      if other = action then (table.codes action).erase code else table.codes other := by
  rw [codes, binding_remove]
  simp only [bound, and_true]
  split <;> rfl

theorem mem_codes_of_remove {other : Action} {kept : Int}
    (held : kept ∈ (table.remove code action).codes other) : kept ∈ table.codes other := by
  by_cases bound : code ∈ table.codes action
  · rw [codes_remove bound] at held
    split at held
    next here => exact here ▸ List.mem_of_mem_erase held
    · exact held
  · rwa [remove_absent bound] at held

theorem lookup_remove (positive : 1 ≤ table.limits.keyMin) (code : Int) (action : Action)
    (other : Int) :
    (table.remove code action).lookup other =
      if other = code ∧ code ∈ table.codes action ∧ table.lookup code = some action then none
      else table.lookup other := by
  by_cases bound : code ∈ table.codes action
  · rw [remove_bound bound, lookup_withBinding, lookup_release positive]
    simp only [bound, true_and]
  · rw [remove_absent bound]
    simp only [bound, false_and, and_false, if_false]

/-- Release some codes of an action. -/
def releaseAll (table : Table) (action : Action) (codes : List Int) : Table :=
  codes.foldl (fun table code => table.release action code) table

@[simp] theorem keyboard_releaseAll (table : Table) (action : Action) (codes : List Int) :
    (table.releaseAll action codes).keyboard = table.keyboard := by
  induction codes generalizing table with
  | nil => rfl
  | cons code rest ih => exact (ih (table.release action code)).trans (keyboard_release _ _ _)

@[simp] theorem bindings_releaseAll (table : Table) (action : Action) (codes : List Int) :
    (table.releaseAll action codes).bindings = table.bindings := by
  induction codes generalizing table with
  | nil => rfl
  | cons code rest ih => exact (ih (table.release action code)).trans (bindings_release _ _ _)

theorem lookup_releaseAll (positive : 1 ≤ table.limits.keyMin) (action : Action)
    (codes : List Int) (other : Int) :
    (table.releaseAll action codes).lookup other =
      if other ∈ codes ∧ table.lookup other = some action then none else table.lookup other := by
  induction codes generalizing table with
  | nil => simp [releaseAll]
  | cons code rest ih =>
    have limits := limits_release table action code
    -- After the first release the other codes are released from what is left.
    have tail := @ih (table.release action code) (limits ▸ positive)
    rw [lookup_release positive] at tail
    refine tail.trans ?_
    by_cases first : other = code
    · subst first
      by_cases owned : table.lookup other = some action <;> simp [owned]
    · simp [first]

theorem markUndefined_eq (table : Table) (action : Action) :
    table.markUndefined action =
      (table.releaseAll action (table.codes action)).withBinding action ⟨.undefined, []⟩ := rfl

@[simp] theorem keyboard_markUndefined (table : Table) (action : Action) :
    (table.markUndefined action).keyboard = table.keyboard := by
  rw [markUndefined_eq, keyboard_withBinding, keyboard_releaseAll]

theorem limits_markUndefined (table : Table) (action : Action) :
    (table.markUndefined action).limits = table.limits :=
  congrArg Keyboard.limits (keyboard_markUndefined table action)

theorem binding_markUndefined (table : Table) (action other : Action) :
    (table.markUndefined action).binding other =
      if other = action then ⟨.undefined, []⟩ else table.binding other := by
  rw [markUndefined_eq, binding_withBinding]
  simp only [Table.binding, bindings_releaseAll]

theorem codes_markUndefined (table : Table) (action other : Action) :
    (table.markUndefined action).codes other =
      if other = action then [] else table.codes other := by
  rw [codes, binding_markUndefined]
  split <;> rfl

theorem mem_codes_of_markUndefined {other : Action} {kept : Int}
    (held : kept ∈ (table.markUndefined action).codes other) : kept ∈ table.codes other := by
  rw [codes_markUndefined] at held
  split at held
  · cases held
  · exact held

theorem lookup_markUndefined (positive : 1 ≤ table.limits.keyMin) (action : Action) (other : Int) :
    (table.markUndefined action).lookup other =
      if other ∈ table.codes action ∧ table.lookup other = some action then none
      else table.lookup other := by
  rw [markUndefined_eq, lookup_withBinding, lookup_releaseAll positive]

/-! ### Consistent tables -/

/-- The reverse map names the one action in whose list a code stands, and an action is
configured exactly when its list is not empty. -/
structure Consistent (table : Table) : Prop where
  owner_iff : ∀ code action, table.lookup code = some action ↔ code ∈ table.codes action
  distinct : ∀ action, (table.codes action).Nodup
  configured_iff : ∀ action, table.state action = .configured ↔ table.codes action ≠ []
  ordered : table.reverse.Ordered table.limits

namespace Consistent

/-- No two actions share a code. -/
theorem unshared (consistent : table.Consistent) {other : Action}
    (mine : code ∈ table.codes action) (theirs : code ∈ table.codes other) : action = other := by
  have owner := (consistent.owner_iff code action).mpr mine
  rw [(consistent.owner_iff code other).mpr theirs] at owner
  exact (Option.some.inj owner).symm

theorem valid (consistent : table.Consistent) (bound : code ∈ table.codes action) :
    table.limits.isValid code = true :=
  ReverseMap.valid_of_get? _ _ _ ((consistent.owner_iff code action).mpr bound)

theorem codes_eq_nil (consistent : table.Consistent) (other : table.state action ≠ .configured) :
    table.codes action = [] := by
  by_contra bound
  exact other ((consistent.configured_iff action).mpr bound)

theorem binding_missing (consistent : table.Consistent) (missing : table.isMissing action = true) :
    table.binding action = {} := by
  have state : table.state action = .missing := by simpa [isMissing] using missing
  have empty : table.codes action = [] := consistent.codes_eq_nil (by simp [state])
  exact congrArg₂ Binding.mk state empty

theorem unowned_iff (consistent : table.Consistent) (code : Int) :
    table.lookup code = none ↔ ∀ action, code ∉ table.codes action := by
  simp only [Option.eq_none_iff_forall_ne_some, ne_eq, consistent.owner_iff]

theorem fresh (keyboard : Keyboard) : (Table.fresh keyboard).Consistent where
  owner_iff code action := by simp [codes]
  distinct action := by simp [codes]
  configured_iff action := by simp [codes, state]
  ordered := ReverseMap.ordered_empty _

theorem assign (positive : 1 ≤ table.limits.keyMin) (consistent : table.Consistent)
    (assigned : table.assign code action = .ok after) : after.Consistent := by
  have lists := codes_assign assigned
  obtain ⟨free, reverse, set, same⟩ := assign_ok assigned
  -- The code was free, so no list has it yet.
  have absent : ∀ other, code ∉ table.codes other := (consistent.unowned_iff code).mp free
  refine ⟨fun code' other => ?_, fun other => ?_, fun other => ?_, ?_⟩
  · rw [lookup_assign positive assigned, lists]
    have known := consistent.owner_iff code' other
    by_cases new : code' = code
    · subst new
      by_cases here : other = action
      · simp [here]
      · simp [here, Ne.symm here, absent other]
    · by_cases here : other = action
      · subst here
        simpa [new] using known
      · simpa [new, here] using known
  · rw [lists]
    by_cases here : other = action
    · subst here
      rw [if_pos rfl]
      refine List.nodup_append.mpr ⟨consistent.distinct other, by simp, ?_⟩
      rintro member inOld _ (_ | ⟨_, ⟨⟩⟩) rfl
      exact absent other inOld
    · rw [if_neg here]
      exact consistent.distinct other
  · rw [lists, state, binding_assign assigned]
    by_cases here : other = action
    · simp [here]
    · simp only [if_neg here]
      exact consistent.configured_iff other
  · subst same
    exact consistent.ordered.set? positive set

theorem release_ordered (positive : 1 ≤ table.limits.keyMin)
    (ordered : table.reverse.Ordered table.limits) (action : Action) (code : Int) :
    (table.release action code).reverse.Ordered table.limits := by
  unfold release
  split
  · exact ordered.discard positive code
  · exact ordered

theorem releaseAll_ordered (positive : 1 ≤ table.limits.keyMin)
    (ordered : table.reverse.Ordered table.limits) (action : Action) (codes : List Int) :
    (table.releaseAll action codes).reverse.Ordered table.limits := by
  induction codes generalizing table with
  | nil => exact ordered
  | cons code rest ih =>
    have limits := limits_release table action code
    have step := release_ordered positive ordered action code
    rw [← limits] at step positive ⊢
    exact ih positive step

theorem markUndefined (positive : 1 ≤ table.limits.keyMin) (consistent : table.Consistent)
    (action : Action) : (table.markUndefined action).Consistent := by
  have lists := codes_markUndefined table action
  refine ⟨fun code other => ?_, fun other => ?_, fun other => ?_, ?_⟩
  · rw [lookup_markUndefined positive, lists]
    have known := consistent.owner_iff code other
    have mine := consistent.owner_iff code action
    -- The codes of the action lose their owner; every other code keeps its own.
    by_cases here : other = action
    · subst here
      by_cases owned : code ∈ table.codes other
      · simp [owned, mine]
      · simp [owned, known]
    · by_cases owned : code ∈ table.codes action
      · have elsewhere : code ∉ table.codes other := fun theirs =>
          here (consistent.unshared theirs owned)
        simp [here, owned, mine, elsewhere]
      · simp [here, owned, known]
  · rw [lists]
    split
    · exact List.nodup_nil
    · exact consistent.distinct other
  · rw [lists, state, binding_markUndefined]
    by_cases here : other = action
    · simp [here]
    · simp only [if_neg here]
      exact consistent.configured_iff other
  · rw [limits_markUndefined]
    exact releaseAll_ordered positive consistent.ordered action (table.codes action)

theorem remove (positive : 1 ≤ table.limits.keyMin) (consistent : table.Consistent)
    (code : Int) (action : Action) : (table.remove code action).Consistent := by
  by_cases bound : code ∈ table.codes action
  case neg =>
    rw [remove_absent bound]
    exact consistent
  have lists := codes_remove bound
  -- The list has the code, so the reverse map names this action, and the release takes it away.
  have owned := (consistent.owner_iff code action).mpr bound
  refine ⟨fun code' other => ?_, fun other => ?_, fun other => ?_, ?_⟩
  · rw [lookup_remove positive, lists]
    have known := consistent.owner_iff code' other
    by_cases removed : code' = code
    · subst removed
      by_cases here : other = action
      · simp [here, bound, owned, (consistent.distinct action).not_mem_erase]
      -- Another action cannot hold the code as well.
      · have elsewhere : code' ∉ table.codes other := fun theirs =>
          here (consistent.unshared theirs bound)
        simp [here, bound, owned, elsewhere]
    · by_cases here : other = action
      · subst here
        simp [removed, known, List.mem_erase_of_ne removed]
      · simp [removed, here, known]
  · rw [lists]
    split
    · exact (consistent.distinct action).erase code
    · exact consistent.distinct other
  · rw [lists, state, binding_remove]
    by_cases here : other = action
    · have configured : table.state action = .configured :=
        (consistent.configured_iff action).mpr (List.ne_nil_of_mem bound)
      by_cases last : (table.codes action).erase code = [] <;> simp [here, bound, last, configured]
    · simp only [here, false_and, if_false]
      exact consistent.configured_iff other
  · rw [limits_remove, remove_bound bound]
    exact release_ordered positive consistent.ordered action code

end Consistent

end Table

end KeyBindings
