import KeyBindings.Proofs.Binding.Consistency

/-!
# Keys bound one after the other

A walk binds one key after the other until one is refused. What it has bound is a list of keys with
their actions, and the list says all that the walk has changed: the codes that every action got, in
their order, and the new owners.
-/
namespace KeyBindings

namespace Table

variable {table middle after : Table} {bound more : List (Int × Action)} {action : Action}

/-- One table comes of another by binding some keys one after the other, none of which is refused. -/
inductive Binds : Table → List (Int × Action) → Table → Prop
  | nil (table : Table) : Binds table [] table
  | cons {table middle after : Table} {code : Int} {action : Action} {rest : List (Int × Action)}
      (assigned : table.assign code action = .ok middle) (later : Binds middle rest after) :
      Binds table ((code, action) :: rest) after

/-- The codes that some keys give to an action. -/
def codesFor (action : Action) (bound : List (Int × Action)) : List Int :=
  (bound.filter fun key => key.2 = action).map Prod.fst

theorem codesFor_cons (action owner : Action) (code : Int) (rest : List (Int × Action)) :
    codesFor action ((code, owner) :: rest) =
      if owner = action then code :: codesFor action rest else codesFor action rest := by
  by_cases mine : owner = action <;> simp [codesFor, mine]

theorem codesFor_append (action : Action) (bound more : List (Int × Action)) :
    codesFor action (bound ++ more) = codesFor action bound ++ codesFor action more := by
  simp [codesFor]

theorem codesFor_one (action owner : Action) (codes : List Int) :
    codesFor action (codes.map (·, owner)) = if owner = action then codes else [] := by
  by_cases mine : owner = action <;> simp [codesFor, List.filter_map, mine, Function.comp_def]

namespace Binds

theorem append (first : table.Binds bound middle) (second : middle.Binds more after) :
    table.Binds (bound ++ more) after := by
  induction first with
  | nil => exact second
  | cons assigned _ ih => exact .cons assigned (ih second)

theorem keyboard (binds : table.Binds bound after) : after.keyboard = table.keyboard := by
  induction binds with
  | nil => rfl
  | cons assigned _ ih => exact ih.trans (keyboard_assign assigned)

/-- An action gets its codes at the end of its list, and one that gets none stays as it is. -/
theorem binding (binds : table.Binds bound after) (action : Action) :
    after.binding action =
      if codesFor action bound = [] then table.binding action
      else ⟨.configured, table.codes action ++ codesFor action bound⟩ := by
  induction binds with
  | nil => rfl
  | @cons table middle after code owner rest assigned _ ih =>
    rw [ih, codes_assign assigned, binding_assign assigned, codesFor_cons]
    by_cases mine : owner = action
    · subst mine
      by_cases last : codesFor owner rest = [] <;> simp [last]
    · simp [mine, Ne.symm mine]

theorem lookup (binds : table.Binds bound after) (positive : 1 ≤ table.limits.keyMin) (code : Int)
    (owner : Action) :
    after.lookup code = some owner ↔ table.lookup code = some owner ∨ (code, owner) ∈ bound := by
  induction binds with
  | nil => simp
  | @cons table middle after first action rest assigned _ ih =>
    have limits := limits_assign assigned
    rw [ih (limits ▸ positive), lookup_assign positive assigned]
    by_cases here : code = first
    · -- The code was free when it was bound, so its owner is the one it got then.
      subst here
      simp [(assign_ok assigned).1, eq_comm]
    · simp [here]

theorem binding_others (binds : table.Binds bound after) (others : ∀ key ∈ bound, key.2 ≠ action) :
    after.binding action = table.binding action := by
  have none : codesFor action bound = [] := by
    rw [codesFor, List.map_eq_nil_iff, List.filter_eq_nil_iff]
    exact fun key member => by simpa using others key member
  rw [binds.binding, if_pos none]

theorem free (binds : table.Binds bound after) (positive : 1 ≤ table.limits.keyMin) :
    (bound.map Prod.fst).Nodup ∧ ∀ code ∈ bound.map Prod.fst, table.lookup code = none := by
  induction binds with
  | nil => simp
  | @cons table middle after first action rest assigned _ ih =>
    have limits := limits_assign assigned
    obtain ⟨distinct, unowned⟩ := ih (limits ▸ positive)
    -- What is free after the first assignment was free before it and is another code.
    have apart : ∀ code ∈ rest.map Prod.fst, code ≠ first ∧ table.lookup code = none := by
      intro code member
      have none := unowned code member
      rw [lookup_assign positive assigned] at none
      split at none
      · cases none
      next differ => exact ⟨differ, none⟩
    constructor
    · exact List.nodup_cons.mpr ⟨fun again => (apart first again).1 rfl, distinct⟩
    · exact List.forall_mem_cons.mpr ⟨(assign_ok assigned).1, fun code member => (apart code member).2⟩

theorem valid (binds : table.Binds bound after) : ∀ key ∈ bound, table.limits.isValid key.1 = true := by
  induction binds with
  | nil => exact fun _ member => absurd member List.not_mem_nil
  | @cons table middle after code action rest assigned _ ih =>
    have limits := limits_assign assigned
    obtain ⟨-, reverse, set, -⟩ := assign_ok assigned
    refine List.forall_mem_cons.mpr ⟨?_, fun key member => limits ▸ ih key member⟩
    rw [← ReverseMap.set?_isSome table.reverse code action, set]
    rfl

/-- Key codes that are different and that nobody has can all be bound. -/
theorem of_free (positive : 1 ≤ table.limits.keyMin)
    (valid : ∀ key ∈ bound, table.limits.isValid key.1 = true) (distinct : (bound.map Prod.fst).Nodup)
    (free : ∀ code ∈ bound.map Prod.fst, table.lookup code = none) : ∃ after, table.Binds bound after := by
  induction bound generalizing table with
  | nil => exact ⟨table, .nil table⟩
  | cons key rest ih =>
    obtain ⟨code, action⟩ := key
    obtain ⟨absent, tail⟩ := List.nodup_cons.mp distinct
    obtain ⟨here, later⟩ := List.forall_mem_cons.mp free
    obtain ⟨middle, assigned⟩ := assign_free here (valid _ List.mem_cons_self) action
    have limits := limits_assign assigned
    -- The codes that are left are others, so they are as free as before.
    have stillFree : ∀ other ∈ rest.map Prod.fst, middle.lookup other = none := by
      intro other member
      have differ : other ≠ code := fun same => absent (same ▸ member)
      rw [lookup_assign positive assigned, if_neg differ]
      exact later other member
    obtain ⟨after, binds⟩ := ih (limits ▸ positive)
      (fun key member => limits ▸ valid key (List.mem_cons_of_mem _ member)) tail stillFree
    exact ⟨after, .cons assigned binds⟩

theorem consistent (binds : table.Binds bound after) (positive : 1 ≤ table.limits.keyMin)
    (consistent : table.Consistent) : after.Consistent := by
  induction binds with
  | nil => exact consistent
  | @cons table middle after code action rest assigned _ ih =>
    have limits := limits_assign assigned
    exact ih (limits ▸ positive) (consistent.assign positive assigned)

theorem present (binds : table.Binds bound after) {key : Int × Action} (member : key ∈ bound) :
    after.isMissing key.2 = false := by
  have some : codesFor key.2 bound ≠ [] := by
    apply List.ne_nil_of_mem (a := key.1)
    exact List.mem_map.mpr ⟨key, List.mem_filter.mpr ⟨member, by simp⟩, rfl⟩
  rw [isMissing, state, binds.binding, if_neg some]
  rfl

theorem missing_others {codes : List Int} (binds : table.Binds (codes.map (·, action)) after)
    {others : List Action} (absent : action ∉ others) :
    others.filter after.isMissing = others.filter table.isMissing := by
  apply List.filter_congr
  intro other member
  have kept : after.binding other = table.binding other := by
    apply binds.binding_others
    intro key own same
    obtain ⟨code, -, rfl⟩ := List.mem_map.mp own
    have here : action = other := same
    exact absent (here ▸ member)
  rw [isMissing, isMissing, state, state, kept]

end Binds

end Table

end KeyBindings
