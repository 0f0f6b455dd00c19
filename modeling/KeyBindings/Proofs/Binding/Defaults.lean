import KeyBindings.Proofs.Binding.Runs
import KeyBindings.Proofs.Binding.Walk

/-!
# What filling in default keys leaves

Filling in default keys asks for the default keys of every missing action, in the order of the
actions, and stops at the first key that is refused. When it ends well, the missing actions have got
their default keys, and nobody else has changed.
-/
namespace KeyBindings

theorem Action.defaultKeys_ne_nil (action : Action) : action.defaultKeys ≠ [] := by
  cases action <;> decide

/-- The codes of an action's default keys, in their order. -/
def Keyboard.defaultsOf (keyboard : Keyboard) (action : Action) : List Int :=
  action.defaultKeys.map keyboard.codeOf

/-- What a walk over some actions asks for: their default codes, each with its action. -/
def Keyboard.asked (keyboard : Keyboard) (actions : List Action) : List (Int × Action) :=
  actions.flatMap fun action => (keyboard.defaultsOf action).map (·, action)

namespace Table

variable {table after : Table} {action : Action}

/-! ### The keys of one action -/

theorem assignNames_done {names : List String} (done : table.assignNames action names = (after, none)) :
    table.Binds ((names.map table.keyboard.codeOf).map (·, action)) after := by
  induction names generalizing table with
  | nil =>
    obtain ⟨rfl, -⟩ := Prod.mk.inj done
    exact .nil table
  | cons name rest ih =>
    unfold assignNames at done
    split at done
    next middle assigned =>
      have later := ih done
      rw [keyboard_assign assigned] at later
      exact .cons assigned later
    · cases done

theorem assignNames_stopped {names : List String} {reason : AssignError}
    (stopped : table.assignNames action names = (after, some reason)) :
    ∃ given name rest, names = given ++ name :: rest ∧
      table.Binds ((given.map table.keyboard.codeOf).map (·, action)) after ∧
      after.assign (table.keyboard.codeOf name) action = .error reason := by
  induction names generalizing table with
  | nil => cases stopped
  | cons name rest ih =>
    unfold assignNames at stopped
    split at stopped
    next middle assigned =>
      -- The first name went through, so the stop lies among the rest.
      obtain ⟨given, clashing, behind, same, binds, refused⟩ := ih stopped
      rw [keyboard_assign assigned] at binds refused
      exact ⟨name :: given, clashing, behind, by rw [same, List.cons_append], .cons assigned binds, refused⟩
    next refusal refused =>
      obtain ⟨rfl, same⟩ := Prod.mk.inj stopped
      obtain rfl := Option.some.inj same
      exact ⟨[], name, rest, rfl, .nil table, refused⟩

/-! ### The walk over the actions -/

theorem codesFor_asked (keyboard : Keyboard) (action : Action) {actions : List Action}
    (once : actions.Nodup) :
    codesFor action (keyboard.asked actions) =
      if action ∈ actions then keyboard.defaultsOf action else [] := by
  induction actions with
  | nil => rfl
  | cons first rest ih =>
    obtain ⟨absent, tail⟩ := List.nodup_cons.mp once
    rw [Keyboard.asked] at ih ⊢
    rw [List.flatMap_cons, codesFor_append, codesFor_one, ih tail]
    by_cases here : first = action
    · subst here
      simp [absent]
    · simp [here, Ne.symm here]

theorem fillActions_done {actions : List Action} {filled total : Nat} (once : actions.Nodup)
    (done : table.fillActions actions filled = (after, .ok total)) :
    table.Binds (table.keyboard.asked (actions.filter table.isMissing)) after ∧
      total = filled + (actions.filter table.isMissing).length := by
  induction actions generalizing table filled with
  | nil =>
    obtain ⟨rfl, same⟩ := Prod.mk.inj done
    exact ⟨.nil table, (Except.ok.inj same).symm⟩
  | cons first rest ih =>
    obtain ⟨absent, tail⟩ := List.nodup_cons.mp once
    unfold fillActions at done
    split at done
    next missing =>
      split at done
      next middle named =>
        have own := assignNames_done named
        obtain ⟨later, count⟩ := ih tail done
        -- What is left of the walk asks for the same keys as before, under the same keyboard.
        rw [own.missing_others absent] at later count
        rw [own.keyboard] at later
        rw [List.filter_cons_of_pos missing, List.length_cons]
        exact ⟨own.append later, by omega⟩
      · cases done
    next present =>
      rw [List.filter_cons_of_neg present]
      exact ih tail done

/-- A walk that stops has bound the keys before the one that was refused. -/
theorem fillActions_stopped {actions : List Action} {filled : Nat} {fault : CorruptDefaults}
    (once : actions.Nodup) (stopped : table.fillActions actions filled = (after, .error fault)) :
    ∃ earlier later given name rest,
      actions.filter table.isMissing = earlier ++ fault.action :: later ∧
      fault.action.defaultKeys = given ++ name :: rest ∧
      table.Binds (table.keyboard.asked earlier ++
        (given.map table.keyboard.codeOf).map (·, fault.action)) after ∧
      after.assign (table.keyboard.codeOf name) fault.action = .error fault.reason := by
  induction actions generalizing table filled with
  | nil => cases stopped
  | cons first rest ih =>
    obtain ⟨absent, tail⟩ := List.nodup_cons.mp once
    unfold fillActions at stopped
    split at stopped
    next missing =>
      rw [List.filter_cons_of_pos missing]
      split at stopped
      next middle named =>
        -- The names of this action stand; they come before everything bound later.
        have own := assignNames_done named
        obtain ⟨earlier, later, given, name, behind, split_, keys, binds, refused⟩ := ih tail stopped
        rw [own.missing_others absent] at split_
        rw [own.keyboard] at binds refused
        refine ⟨first :: earlier, later, given, name, behind, by rw [split_, List.cons_append], keys, ?_,
          refused⟩
        have whole := own.append binds
        rwa [← List.append_assoc] at whole
      next middle reason named =>
        obtain ⟨rfl, same⟩ := Prod.mk.inj stopped
        obtain rfl := Except.error.inj same
        -- The walk stops inside this action, with part of its names bound.
        obtain ⟨given, name, behind, keys, binds, refused⟩ := assignNames_stopped named
        exact ⟨[], rest.filter table.isMissing, given, name, behind, rfl, keys, binds, refused⟩
    next present =>
      rw [List.filter_cons_of_neg present]
      exact ih tail stopped

/-! ### The whole walk -/

theorem mem_missingActions : action ∈ table.missingActions ↔ table.isMissing action = true := by
  simp [missingActions, Action.mem_all]

theorem missingActions_eq_nil :
    table.missingActions = [] ↔ ∀ action, table.isMissing action = false := by
  simp [missingActions, Action.mem_all]

theorem missingActions_nodup (table : Table) : table.missingActions.Nodup :=
  Action.all_nodup.filter _

theorem fillMissing_done {filled : Nat} (done : table.fillMissing = (after, .ok filled)) :
    table.Binds (table.keyboard.asked table.missingActions) after ∧
      filled = table.missingActions.length := by
  have walk := fillActions_done Action.all_nodup done
  rwa [Nat.zero_add] at walk

theorem fillMissing_stopped {fault : CorruptDefaults} (stopped : table.fillMissing = (after, .error fault)) :
    ∃ earlier later given name rest,
      table.missingActions = earlier ++ fault.action :: later ∧
      fault.action.defaultKeys = given ++ name :: rest ∧
      table.Binds (table.keyboard.asked earlier ++
        (given.map table.keyboard.codeOf).map (·, fault.action)) after ∧
      after.assign (table.keyboard.codeOf name) fault.action = .error fault.reason :=
  fillActions_stopped Action.all_nodup stopped

theorem action_of_asked {keyboard : Keyboard} {actions : List Action} {key : Int × Action}
    (member : key ∈ keyboard.asked actions) : key.2 ∈ actions := by
  obtain ⟨action, listed, isKey⟩ := List.mem_flatMap.mp member
  obtain ⟨code, -, rfl⟩ := List.mem_map.mp isKey
  exact listed

/-- A walk leaves an action as it is that is not missing, also when it stops at a fault. -/
theorem binding_fillMissing (present : table.isMissing action = false) :
    table.fillMissing.1.binding action = table.binding action := by
  -- Only missing actions are walked, and this one is not missing.
  have other : ∀ missing ∈ table.missingActions, missing ≠ action := by
    rintro missing member rfl
    simp [mem_missingActions.mp member] at present
  cases walk : table.fillMissing with
  | mk after result =>
    cases result with
    | ok filled =>
      apply (fillMissing_done walk).1.binding_others
      intro key member
      exact other key.2 (action_of_asked member)
    | error fault =>
      obtain ⟨earlier, later, given, name, rest, missing, -, binds, -⟩ := fillMissing_stopped walk
      rw [missing] at other
      apply binds.binding_others
      intro key member
      rcases List.mem_append.mp member with before | own
      · exact other key.2 (List.mem_append_left _ (action_of_asked before))
      · obtain ⟨code, -, rfl⟩ := List.mem_map.mp own
        exact other fault.action (by simp)

theorem defaultsOf_ne_nil (keyboard : Keyboard) (action : Action) : keyboard.defaultsOf action ≠ [] := by
  simp [Keyboard.defaultsOf, action.defaultKeys_ne_nil]

/-- When filling in ends well, every missing action has got all its default keys. -/
theorem binding_filled {filled : Nat} (done : table.fillMissing = (after, .ok filled)) (action : Action) :
    after.binding action =
      if table.isMissing action = true then
        ⟨.configured, table.codes action ++ table.keyboard.defaultsOf action⟩
      else table.binding action := by
  rw [(fillMissing_done done).1.binding, codesFor_asked _ _ table.missingActions_nodup]
  by_cases missing : table.isMissing action = true
  · simp [mem_missingActions, missing, defaultsOf_ne_nil]
  · simp [mem_missingActions, missing]

theorem fillMissing_ok {filled : Nat} (done : table.fillMissing = (after, .ok filled)) :
    (∀ action, after.isMissing action = false) ∧ filled = table.missingActions.length := by
  refine ⟨fun action => ?_, (fillMissing_done done).2⟩
  rw [isMissing, state, binding_filled done]
  split
  · rfl
  next present => exact Bool.eq_false_iff.mpr present

theorem fillActions_present (table : Table) (actions : List Action) (filled : Nat)
    (present : ∀ action ∈ actions, table.isMissing action = false) :
    table.fillActions actions filled = (table, .ok filled) := by
  induction actions with
  | nil => rfl
  | cons first rest ih =>
    have here : ¬ table.isMissing first = true := by simp [present first List.mem_cons_self]
    rw [fillActions, if_neg here]
    exact ih fun action member => present action (List.mem_cons_of_mem _ member)

end Table

end KeyBindings
