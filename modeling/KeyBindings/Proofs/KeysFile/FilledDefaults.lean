import KeyBindings.Proofs.Key.NamedCodes
import KeyBindings.Proofs.KeysFile.DefaultsFile

/-!
# Filling in the default keys and loading their file

The default keys come into a table in two ways: they are filled in where an action is missing, or
they are loaded from a file of default keys. In a fresh table both bind the same keys in the same
order. A key that is refused parts them: filling in stops there, loading notes it and goes on with
the next key. So both leave the same table when nothing is refused, and otherwise the fault that
stops the one is the first problem of the other.
-/
namespace KeyBindings

/-! ### Where filling in stops -/

namespace Table

variable {table after : Table}

/-- Default keys that are key codes are refused only for their owners. -/
theorem conflict_of_fillActions {actions : List Action} {filled : Nat} {fault : CorruptDefaults}
    (valid : ∀ action ∈ actions, ∀ name ∈ action.defaultKeys,
      table.limits.isValid (table.keyboard.codeOf name) = true)
    (stopped : table.fillActions actions filled = (after, .error fault)) :
    ∃ code owner keyName, fault.reason = .conflict code owner keyName := by
  induction actions generalizing table filled with
  | nil => cases stopped
  | cons action rest ih =>
    obtain ⟨here, later⟩ := List.forall_mem_cons.mp valid
    unfold fillActions at stopped
    split at stopped
    · split at stopped
      next middle named =>
        refine ih (fun other member => ?_) stopped
        rw [limits, (assignNames_done named).keyboard]
        exact later other member
      next middle reason named =>
        obtain ⟨-, same⟩ := Prod.mk.inj stopped
        obtain rfl := Except.error.inj same
        obtain ⟨given, name, behind, keys, binds, refused⟩ := assignNames_stopped named
        have isCode : middle.limits.isValid (table.keyboard.codeOf name) = true := by
          rw [limits, binds.keyboard]
          exact here name (by simp [keys])
        -- A valid code can only be refused because another action owns it.
        obtain ⟨owner, -, conflict⟩ := assign_refused isCode refused
        exact ⟨_, owner, _, conflict⟩
    · exact ih later stopped

end Table

namespace KeysFile

/-! ### What the lines of default keys ask for -/

/-- Loading asks for the keys that filling in asks for. -/
theorem map_key_defaultRequests (keyboard : Keyboard) (number : Nat) (actions : List Action) :
    (defaultRequests number actions).map (Request.key keyboard) = keyboard.asked actions := by
  induction actions generalizing number with
  | nil => rfl
  | cons action rest ih =>
    rw [defaultRequests, List.map_append, ih, Keyboard.asked, Keyboard.asked, List.flatMap_cons,
      Keyboard.defaultsOf]
    simp [Request.key]

theorem defaultRequests_append (number : Nat) (actions more : List Action) :
    defaultRequests number (actions ++ more) =
      defaultRequests number actions ++ defaultRequests (number + actions.length) more := by
  induction actions generalizing number with
  | nil => rfl
  | cons action rest ih =>
    rw [List.cons_append, defaultRequests, defaultRequests, ih, List.append_assoc, List.length_cons,
      Nat.add_assoc, Nat.add_comm 1]

namespace Loading

variable {loading : Loading} {after : Table}

/-! ### The keys of several actions -/

theorem bindRequests_of_filled {actions : List Action} (number : Nat) {filled total : Nat}
    (missing : ∀ action ∈ actions, loading.table.isMissing action = true) (once : actions.Nodup)
    (done : loading.table.fillActions actions filled = (after, .ok total)) :
    (defaultRequests number actions).foldl bindRequest loading =
      { loading with table := after,
                     report.assigned := loading.report.assigned +
                       (defaultRequests number actions).length } := by
  obtain ⟨binds, -⟩ := Table.fillActions_done once done
  rw [List.filter_eq_self.mpr missing, ← map_key_defaultRequests _ number] at binds
  exact bindRequests_of_binds binds

/-- The fault at which filling in stops is the first problem of the lines, on the line of its
action. -/
theorem bindRequests_of_stopped {actions : List Action} (number : Nat) {filled : Nat}
    {fault : CorruptDefaults}
    (missing : ∀ action ∈ actions, loading.table.isMissing action = true) (once : actions.Nodup)
    (stopped : loading.table.fillActions actions filled = (after, .error fault)) :
    ∃ place more, actions[place]? = some fault.action ∧
      ((defaultRequests number actions).foldl bindRequest loading).report.problems =
        loading.report.problems ++ .line (number + place) (.refused fault.reason) :: more := by
  obtain ⟨earlier, later, given, name, rest, parts, keys, binds, refused⟩ :=
    Table.fillActions_stopped once stopped
  rw [List.filter_eq_self.mpr missing] at parts
  let line := number + earlier.length
  let passed := defaultRequests number earlier ++ (given.map Text.points).map (Request.mk line fault.action)
  let behind := (rest.map Text.points).map (Request.mk line fault.action) ++ defaultRequests (line + 1) later
  have requests : defaultRequests number actions = passed ++ ⟨line, fault.action, name⟩ :: behind := by
    rw [parts, defaultRequests_append, defaultRequests, keys]
    simp only [passed, behind, line, List.map_append, List.map_cons, List.append_assoc, List.cons_append]
  have asked : passed.map (Request.key loading.table.keyboard) =
      loading.table.keyboard.asked earlier ++
        (given.map loading.table.keyboard.codeOf).map (·, fault.action) := by
    rw [List.map_append, map_key_defaultRequests]
    simp [Request.key]
  -- Up to the refused key both bind the same keys, and whatever comes later is noted behind it.
  have run := bindRequests_of_binds (asked ▸ binds)
  rw [← binds.keyboard, ← Keyboard.codeOfPoints_points] at refused
  obtain ⟨more, grown⟩ := problems_bindRequests behind
    ((passed.foldl bindRequest loading).bindRequest ⟨line, fault.action, name⟩)
  have noted : ((passed.foldl bindRequest loading).bindRequest ⟨line, fault.action, name⟩).report.problems =
      loading.report.problems ++ [.line line (.refused fault.reason)] := by
    rw [run]
    exact bindRequest_refused refused
  refine ⟨earlier.length, more, by rw [parts, List.getElem?_append_right (Nat.le_refl _)]; simp, ?_⟩
  rw [requests, List.foldl_append, List.foldl_cons, ← grown, noted, List.append_assoc, List.singleton_append]

end Loading

/-! ### All actions of a fresh table -/

theorem ordinal_of_getElem? {place : Nat} {action : Action} (found : Action.all[place]? = some action) :
    action.ordinal = place := by
  have numbered : (Action.all.map Action.ordinal)[place]? = some action.ordinal := by
    rw [List.getElem?_map, found, Option.map_some]
  rw [Action.all_ordinal] at numbered
  obtain ⟨bound, same⟩ := List.getElem?_eq_some_iff.mp numbered
  rw [← same, List.getElem_range]

/-- In a fresh table, filling in the default keys and loading their file agree, whatever names the
keys have. Filling in ends well exactly when the load has no problem, and then both leave the same
table. Otherwise it stops at a conflict over a default key, and the first problem of the load is that
conflict, on the line of the action that could not get its key. -/
theorem fillMissing_agrees (limits : Limits) (terminal : Terminal) (keyboard : Keyboard)
    (made : Keyboard.make limits terminal = .ok keyboard) :
    let filling := (Table.fresh keyboard).fillMissing
    let loading := loadText (Table.fresh keyboard) renderDefaults
    ((∃ filled, filling.2 = .ok filled) ↔ loading.report.problems = []) ∧
    (loading.report.problems = [] → filling.1 = loading.table) ∧
    (loading.report.problems ≠ [] → ∃ action code owner keyName,
      filling.2 = .error ⟨action, .conflict code owner keyName⟩ ∧
      (loading.report.problems.map Problem.message).head? = some ("line " ++
        toString (9 + action.ordinal) ++ ": " ++ (AssignError.conflict code owner keyName).message)) := by
  intro filling loading
  have missing : ∀ action ∈ Action.all, (Table.fresh keyboard).isMissing action = true := by
    intro action _
    simp [Table.isMissing, Table.state]
  have same : loading = (defaultRequests 9 Action.all).foldl Loading.bindRequest ⟨Table.fresh keyboard, {}⟩ :=
    loadText_renderDefaults (Table.fresh keyboard)
  -- The lines of the file are walked as filling in walks the actions, up to where that stops.
  cases outcome : filling with
  | mk after result =>
    cases result with
    | ok filled =>
      have run := @Loading.bindRequests_of_filled ⟨Table.fresh keyboard, {}⟩ after Action.all 9 0 filled
        missing Action.all_nodup outcome
      rw [same, run]
      exact ⟨⟨fun _ => rfl, fun _ => ⟨filled, rfl⟩⟩, fun _ => rfl, fun problem => absurd rfl problem⟩
    | error fault =>
      obtain ⟨place, more, found, noted⟩ := @Loading.bindRequests_of_stopped
        ⟨Table.fresh keyboard, {}⟩ after Action.all 9 0 fault missing Action.all_nodup outcome
      -- All default keys are key codes, so only a conflict can have stopped it.
      have valid : ∀ action ∈ Action.all, ∀ name ∈ action.defaultKeys,
          keyboard.limits.isValid (keyboard.codeOf name) = true := by
        intro action member name isKey
        have isDefault := List.mem_flatMap.mpr ⟨action, member, isKey⟩
        exact Keyboard.isValid_codeOf (Keyboard.roomy_of_make made)
          (Keyboard.defaultKeys_filled name isDefault) (Keyboard.defaultKeys_current name isDefault)
      obtain ⟨code, owner, keyName, conflict⟩ := Table.conflict_of_fillActions valid outcome
      have first : loading.report.problems = .line (9 + place) (.refused fault.reason) :: more := by
        rw [same, noted]
        rfl
      rw [first]
      refine ⟨⟨fun ended => ?_, fun empty => ?_⟩, fun empty => ?_, fun _ => ?_⟩
      · obtain ⟨filled, ok⟩ := ended
        cases ok
      · cases empty
      · cases empty
      · refine ⟨fault.action, code, owner, keyName, ?_, ?_⟩
        · rw [← conflict]
        · rw [ordinal_of_getElem? found, ← conflict]
          rfl

/-- Where no key has a name and there is no room for pseudo-keys, two control characters share a
code: `^V` on line 17 gets the one that `^S` has. -/
theorem fillMissing_agrees_nameless :
    let keyboard : Keyboard := ⟨⟨128, 128⟩, fun _ => ""⟩
    Keyboard.make ⟨128, 128⟩ Terminal.nameless = .ok keyboard ∧
      (Table.fresh keyboard).fillMissing.2 = .error ⟨.paste, .conflict 222 .save (some "^")⟩ ∧
      ((loadText (Table.fresh keyboard) renderDefaults).report.problems.map Problem.message).head? =
        some "line 17: Key '^' is already bound to 'generic-save'" := by
  intro keyboard
  have made : Keyboard.make ⟨128, 128⟩ Terminal.nameless = .ok keyboard := rfl
  have stopped : (Table.fresh keyboard).fillMissing.2 =
      .error ⟨.paste, .conflict 222 .save (some "^")⟩ := by decide +kernel
  obtain ⟨clean, -, refused⟩ := fillMissing_agrees _ _ keyboard made
  refine ⟨made, stopped, ?_⟩
  have problem : (loadText (Table.fresh keyboard) renderDefaults).report.problems ≠ [] := by
    intro empty
    obtain ⟨filled, ended⟩ := clean.mpr empty
    rw [stopped] at ended
    cases ended
  obtain ⟨action, code, owner, keyName, fault, first⟩ := refused problem
  rw [stopped] at fault
  obtain ⟨rfl, conflict⟩ := CorruptDefaults.mk.inj (Except.error.inj fault)
  rw [first, ← conflict]
  decide +kernel

end KeysFile

end KeyBindings
