import KeyBindings.Proofs.Binding.Ownership

/-!
# Binding and unbinding undo each other

A code that is bound and taken away again leaves the table as it was, in the lists of keys and in both
stores of the reverse map; only an action that never had a key is then unbound on purpose. A code that
is taken away and bound again comes last: in the list of its action and, when it is an extended code,
among all bound codes.
-/
namespace KeyBindings

namespace ReverseMap

variable {limits : Limits} {code : Int} {action : Action} {entries : List (Int × Action)}

/-! ### One store -/

theorem without_absent (absent : code ∉ codesOf entries) : without code entries = entries := by
  rw [without, List.filter_eq_self]
  intro entry member
  have differ : entry.1 ≠ code := by
    rintro rfl
    exact absent (List.mem_map_of_mem member)
  exact decide_eq_true differ

theorem insertLast_absent (absent : code ∉ codesOf entries) (action : Action) :
    insertLast code action entries = entries ++ [(code, action)] := by
  induction entries with
  | nil => rfl
  | cons entry rest ih =>
    obtain ⟨first, owner⟩ := entry
    rw [codesOf, List.map_cons, List.mem_cons, not_or] at absent
    rw [insertLast, if_neg absent.1, ih absent.2, List.cons_append]

theorem without_insertLast (absent : code ∉ codesOf entries) (action : Action) :
    without code (insertLast code action entries) = entries := by
  have kept : without code entries = entries := without_absent absent
  rw [insertLast_absent absent, without, List.filter_append, ← without, kept]
  simp

theorem insertLast_without (code : Int) (action : Action) (entries : List (Int × Action)) :
    insertLast code action (without code entries) = without code entries ++ [(code, action)] := by
  refine insertLast_absent ?_ action
  rw [codesOf_without]
  simp

theorem without_insertAscending (absent : code ∉ codesOf entries) (action : Action) :
    without code (insertAscending code action entries) = entries := by
  induction entries with
  | nil => simp [insertAscending, without]
  | cons entry rest ih =>
    obtain ⟨first, owner⟩ := entry
    have whole : without code ((first, owner) :: rest) = (first, owner) :: rest := without_absent absent
    rw [codesOf, List.map_cons, List.mem_cons, not_or] at absent
    rw [insertAscending]
    split
    · rw [without, List.filter_cons_of_neg (by simp)]
      exact whole
    · rw [if_neg absent.1, without, List.filter_cons_of_pos (by simpa using Ne.symm absent.1), ← without,
        ih absent.2]

theorem insertAscending_below (below : ∀ other ∈ codesOf entries, code < other) (action : Action) :
    insertAscending code action entries = (code, action) :: entries := by
  cases entries with
  | nil => rfl
  | cons entry rest =>
    have less : code < entry.1 := below entry.1 List.mem_cons_self
    rw [insertAscending, if_pos less]

/-- Among ascending codes an entry comes back to its place. -/
theorem insertAscending_without (ascending : (codesOf entries).Pairwise (· < ·))
    (member : (code, action) ∈ entries) :
    insertAscending code action (without code entries) = entries := by
  induction entries with
  | nil => cases member
  | cons entry rest ih =>
    obtain ⟨first, owner⟩ := entry
    obtain ⟨above, tail⟩ := List.pairwise_cons.mp ascending
    rcases List.mem_cons.mp member with here | later
    · -- The entry is the first one, and the others are above it.
      obtain ⟨rfl, rfl⟩ := Prod.mk.inj here
      have absent : code ∉ codesOf rest := fun again => Int.lt_irrefl code (above code again)
      rw [without, List.filter_cons_of_neg (by simp), ← without, without_absent absent,
        insertAscending_below above]
    · have less : first < code := above code (List.mem_map_of_mem (f := Prod.fst) later)
      rw [without, List.filter_cons_of_pos (by simpa using Int.ne_of_lt less), ← without,
        insertAscending, if_neg (Int.lt_asymm less), if_neg (Int.ne_of_gt less), ih tail later]

/-! ### The whole map -/

theorem Ordered.absent_of_free (positive : 1 ≤ limits.keyMin) {map : ReverseMap}
    (ordered : Ordered limits map) (free : map.get? limits code = none) : code ∉ codesOf map.items := by
  intro member
  obtain ⟨⟨_, owner⟩, inItems, rfl⟩ := List.mem_map.mp member
  rw [ordered.mem_items_iff positive, free] at inItems
  cases inItems

theorem Ordered.discard_set? (positive : 1 ≤ limits.keyMin) {map after : ReverseMap}
    (ordered : Ordered limits map) (free : map.get? limits code = none)
    (set : map.set? limits code action = some after) : after.discard limits code = map := by
  have absent := ordered.absent_of_free positive free
  rw [items, codesOf, List.map_append, List.mem_append, not_or] at absent
  rw [set?_eq positive] at set
  rw [discard_eq positive]
  split at set
  · cases set
  -- The code went into one of the two stores, and is taken out of the same one.
  · cases set
    simp only [*, without_insertLast absent.2]
  · cases set
    simp only [*, without_insertAscending absent.1]

/-- Discarding a code and setting it again for its owner moves it behind the other extended codes. An
ordinary or pseudo code comes back to its place. -/
theorem Ordered.set?_discard (positive : 1 ≤ limits.keyMin) {map : ReverseMap}
    (ordered : Ordered limits map) (owned : map.get? limits code = some action) :
    (map.discard limits code).set? limits code action = some
      (if limits.classify? code = some .extended then
        { map with extended := without code map.extended ++ [(code, action)] }
      else map) := by
  rw [get?_eq positive] at owned
  rw [set?_eq positive, discard_eq positive]
  split at owned
  · cases owned
  next extended => simp only [extended, insertLast_without, if_true]
  next range dense found =>
    -- A list sorted by code takes the code back at the place it had.
    have kept := insertAscending_without ordered.dense_ascending (Entries.mem_of_lookup owned)
    have other : limits.classify? code ≠ some .extended := fun same =>
      dense (Option.some.inj (found.symm.trans same))
    rw [if_neg other]
    simp only [kept]

theorem Ordered.without_items {map : ReverseMap} (ordered : Ordered limits map)
    (extended : limits.classify? code = some .extended) :
    without code map.items = map.dense ++ without code map.extended := by
  have absent : code ∉ codesOf map.dense := by
    intro member
    obtain ⟨range, found, dense⟩ := ordered.dense_range code member
    exact dense (Option.some.inj (found.symm.trans extended))
  have kept : without code map.dense = map.dense := without_absent absent
  rw [items, without, List.filter_append, ← without, ← without, kept]

end ReverseMap

namespace Table

variable {table after : Table} {code : Int} {action : Action}

/-! ### The whole table -/

theorem assign_owned (positive : 1 ≤ table.limits.keyMin)
    (assigned : table.assign code action = .ok after) : after.lookup code = some action := by
  rw [lookup_assign positive assigned, if_pos rfl]

theorem mem_codes_assigned (assigned : table.assign code action = .ok after) :
    code ∈ after.codes action := by
  simp [codes_assign assigned]

theorem reverse_release_owned (owned : table.lookup code = some action) :
    (table.release action code).reverse = table.reverse.discard table.limits code := by
  rw [release, if_pos owned]

/-- Taking a code away that was just bound gives the reverse map back. -/
theorem reverse_remove_assign (positive : 1 ≤ table.limits.keyMin) (consistent : table.Consistent)
    (assigned : table.assign code action = .ok after) :
    (after.remove code action).reverse = table.reverse := by
  have owned := assign_owned positive assigned
  rw [remove_bound (mem_codes_assigned assigned), reverse_withBinding, reverse_release_owned owned,
    limits_assign assigned]
  obtain ⟨free, reverse, set, rfl⟩ := assign_ok assigned
  exact consistent.ordered.discard_set? positive free set

/-- Only an action that never had a key does not get its state back. -/
theorem binding_remove_assign (consistent : table.Consistent)
    (assigned : table.assign code action = .ok after) (other : Action) :
    (after.remove code action).binding other =
      ⟨if other = action ∧ table.state action = .missing then .undefined else table.state other,
        table.codes other⟩ := by
  have absent : code ∉ table.codes action :=
    (consistent.unowned_iff code).mp (assign_ok assigned).1 action
  have same : (table.codes action ++ [code]).erase code = table.codes action := by
    rw [List.erase_append_right _ absent, List.erase_cons_head, List.append_nil]
  rw [binding_remove, binding_assign assigned, codes_assign assigned, state, binding_assign assigned]
  by_cases here : other = action
  · subst here
    simp only [if_true, List.mem_append, List.mem_singleton, or_true, and_true, same, true_and]
    congr 1
    -- An empty list belongs to an action that is missing or has no keys on purpose.
    cases known : table.state other with
    | configured => simpa using (consistent.configured_iff other).mp known
    | undefined => simp [consistent.codes_eq_nil (by simp [known] : table.state other ≠ .configured)]
    | missing => simp [consistent.codes_eq_nil (by simp [known] : table.state other ≠ .configured)]
  · simp only [here, false_and, if_false]
    rfl

theorem assign_removed (positive : 1 ≤ table.limits.keyMin) (consistent : table.Consistent)
    (owned : table.lookup code = some action) :
    ∃ after, (table.remove code action).assign code action = .ok after := by
  have bound := (consistent.owner_iff code action).mp owned
  refine assign_free ?_ ((limits_remove table code action).symm ▸ consistent.valid bound) action
  rw [lookup_remove positive, if_pos ⟨rfl, bound, owned⟩]

theorem reverse_assign_remove (positive : 1 ≤ table.limits.keyMin) (consistent : table.Consistent)
    (owned : table.lookup code = some action)
    (assigned : (table.remove code action).assign code action = .ok after) :
    after.reverse = if table.limits.classify? code = some .extended then
        { table.reverse with
          extended := ReverseMap.without code table.reverse.extended ++ [(code, action)] }
      else table.reverse := by
  have bound := (consistent.owner_iff code action).mp owned
  obtain ⟨-, reverse, set, rfl⟩ := assign_ok assigned
  rw [limits_remove, remove_bound bound, reverse_withBinding, reverse_release_owned owned,
    consistent.ordered.set?_discard positive owned] at set
  exact (Option.some.inj set).symm

/-- The code comes to the end of the list of its action. -/
theorem binding_assign_remove (consistent : table.Consistent) (owned : table.lookup code = some action)
    (assigned : (table.remove code action).assign code action = .ok after) (other : Action) :
    after.binding other = ⟨table.state other,
      if other = action then (table.codes action).erase code ++ [code] else table.codes other⟩ := by
  have bound := (consistent.owner_iff code action).mp owned
  -- The action has a key, so it does not matter whether it keeps one in between.
  have configured := (consistent.configured_iff action).mpr (List.ne_nil_of_mem bound)
  rw [binding_assign assigned, codes_remove bound, binding_remove]
  by_cases here : other = action
  · subst here
    simp only [if_true, configured]
  · simp only [here, false_and, if_false]
    rfl

/-- A free code that is bound and taken away again leaves every state, every list of keys, every owner
and the order of the bound codes as they were, except that an action that never had a key is then
unbound on purpose. A bound code that is taken away and bound again leaves them as they were too, except
that it comes to the end of its action's list and, when it is an extended code, to the end of the bound
codes. -/
theorem assign_remove_undone (table : Table) (reachable : table.IsReachable)
    (positive : 1 ≤ table.limits.keyMin) (code : Int) (valid : table.limits.isValid code = true)
    (action : Action) :
    (table.lookup code = none → ∃ after, table.assign code action = .ok after ∧
      let undone := after.remove code action
      (∀ other, undone.state other =
        if other = action ∧ table.state action = .missing then .undefined else table.state other) ∧
      (∀ other, undone.codes other = table.codes other) ∧
      (∀ other, undone.lookup other = table.lookup other) ∧
      undone.boundCodes = table.boundCodes) ∧
    (table.lookup code = some action → ∃ redone,
      (table.remove code action).assign code action = .ok redone ∧
      (∀ other, redone.state other = table.state other) ∧
      (∀ other, redone.codes other =
        if other = action then (table.codes action).erase code ++ [code] else table.codes other) ∧
      (∀ other, redone.lookup other = table.lookup other) ∧
      redone.boundCodes = if table.limits.classify? code = some .extended then
          ReverseMap.without code table.boundCodes ++ [(code, action)]
        else table.boundCodes) := by
  have consistent := reachable.consistent positive
  constructor
  · intro free
    obtain ⟨after, assigned⟩ := assign_free free valid action
    have binding := binding_remove_assign consistent assigned
    have reverse := reverse_remove_assign positive consistent assigned
    have keyboard : (after.remove code action).keyboard = table.keyboard :=
      (keyboard_remove after code action).trans (keyboard_assign assigned)
    refine ⟨after, assigned, ?_, ?_, ?_, ?_⟩
    · intro other
      rw [state, binding]
    · intro other
      rw [codes, binding]
    · intro other
      rw [lookup, limits, keyboard, reverse]
      rfl
    · rw [boundCodes, reverse, boundCodes]
  · intro owned
    obtain ⟨redone, assigned⟩ := assign_removed positive consistent owned
    have binding := binding_assign_remove consistent owned assigned
    have reverse := reverse_assign_remove positive consistent owned assigned
    refine ⟨redone, assigned, ?_, ?_, ?_, ?_⟩
    · intro other
      rw [state, binding]
    · intro other
      rw [codes, binding]
    · intro other
      -- The code goes back to the owner it had, and no other code was touched.
      have limits := limits_remove table code action
      rw [lookup_assign (limits ▸ positive) assigned, lookup_remove positive]
      by_cases same : other = code <;> simp [same, owned]
    · rw [boundCodes, reverse]
      split
      next extended =>
        rw [ReverseMap.items, boundCodes, consistent.ordered.without_items extended, List.append_assoc]
      · rfl

/-- Save never had a key and is unbound on purpose after it had one for a moment. Quit keeps its two keys,
and its extended one goes behind all others. -/
theorem assign_remove_undone_extended :
    let table := (fresh ⟨{}, Terminal.usualName⟩).editAll
      [.assign 613 .quit, .assign 113 .quit, .assign 614 .help]
    table.IsReachable ∧ 1 ≤ table.limits.keyMin ∧
      (table.limits.isValid 615 = true ∧ table.lookup 615 = none ∧
        ∃ after, table.assign 615 .save = .ok after ∧
          (after.remove 615 .save).state .save = .undefined ∧
          (after.remove 615 .save).boundCodes = table.boundCodes) ∧
      (table.limits.isValid 613 = true ∧ table.lookup 613 = some .quit ∧
        ∃ redone, (table.remove 613 .quit).assign 613 .quit = .ok redone ∧
          redone.codes .quit = [113, 613] ∧
          redone.boundCodes = [(113, .quit), (614, .help), (613, .quit)]) := by
  intro table
  have reachable : table.IsReachable := ⟨_, rfl⟩
  have positive : 1 ≤ table.limits.keyMin := by decide
  refine ⟨reachable, positive, ⟨by decide, by decide +kernel, ?_⟩, by decide, by decide +kernel, ?_⟩
  · obtain ⟨after, assigned, states, -, -, bound⟩ :=
      (assign_remove_undone table reachable positive 615 (by decide) .save).1 (by decide +kernel)
    refine ⟨after, assigned, ?_, bound⟩
    rw [states, if_pos (by decide +kernel)]
  · obtain ⟨redone, assigned, -, lists, -, bound⟩ :=
      (assign_remove_undone table reachable positive 613 (by decide) .quit).2 (by decide +kernel)
    refine ⟨redone, assigned, ?_, ?_⟩
    · rw [lists]
      decide +kernel
    · rw [bound]
      decide +kernel

end Table

end KeyBindings
