import KeyBindings.Proofs.Binding.Ownership
import KeyBindings.Proofs.KeysFile.Requests
import KeyBindings.Proofs.KeysFile.Written

/-!
# Reading a written keys file back

The keys file of a consistent table, read into a fresh table of the same keyboard, restores the
table, as long as the name of every bound key stands for that key alone.
-/
namespace KeyBindings

/-! ### Names and counts of bound keys -/

namespace Keyboard

theorem nameOf?_ne_empty (keyboard : Keyboard) (code : Int) (name : String)
    (named : keyboard.nameOf? code = some name) : name ≠ "" := by
  unfold nameOf? at named
  split at named
  · cases named
  · cases named
    exact fun empty => absurd (congrArg String.toList empty) (by simp)
  · dsimp only at named
    split at named
    · cases named
    next filled => exact Option.some.inj named ▸ filled

end Keyboard

namespace Table

variable {table : Table}

/-- The name of every bound key is one field and stands for that key. -/
def WellNamed (table : Table) : Prop :=
  ∀ action, ∀ code ∈ table.codes action, ∃ name, table.keyboard.nameOf? code = some name ∧
    (∀ c ∈ name.toList, Text.isAsciiBlank c = false) ∧ table.keyboard.codeOf name = code

theorem WellNamed.codeOf_keyNames (named : table.WellNamed) (action : Action) :
    (table.keyNames action).map table.keyboard.codeOf = table.codes action := by
  have every := named action
  rw [keyNames]
  generalize table.codes action = codes at every ⊢
  induction codes with
  | nil => rfl
  | cons code rest ih =>
    obtain ⟨name, isName, _, back⟩ := every code List.mem_cons_self
    rw [List.filterMap_cons_some isName, List.map_cons, back,
      ih fun other member => every other (List.mem_cons_of_mem _ member)]

theorem WellNamed.isKeyName (named : table.WellNamed) (action : Action) :
    KeysFile.Named table action := by
  intro name member
  obtain ⟨code, bound, isName⟩ := List.mem_filterMap.mp member
  obtain ⟨other, isOther, solid, _⟩ := named action code bound
  obtain rfl : other = name := Option.some.inj (isOther.symm.trans isName)
  refine isKeyName_points.mpr ⟨fun empty => ?_, solid⟩
  exact table.keyboard.nameOf?_ne_empty code other isName (String.toList_eq_nil_iff.mp empty)

theorem mem_undefinedActions (table : Table) (action : Action) :
    action ∈ table.undefinedActions ↔ table.state action = .undefined := by
  simp [undefinedActions, isUndefined, Action.mem_all]

/-- The actions without keys on purpose are listed in their order. -/
theorem undefinedActions_ascending (table : Table) :
    (table.undefinedActions.map Action.ordinal).Pairwise (· < ·) := by
  have ascending : (Action.all.map Action.ordinal).Pairwise (· < ·) := by
    rw [Action.all_ordinal]
    exact List.pairwise_lt_range
  exact ascending.sublist (List.filter_sublist.map Action.ordinal)

theorem Consistent.codes_present (consistent : table.Consistent) (actions : List Action) :
    (actions.filter fun action => !table.isMissing action).flatMap table.codes =
      actions.flatMap table.codes := by
  induction actions with
  | nil => rfl
  | cons action rest ih =>
    cases present : table.isMissing action with
    | false => simp [present, ih]
    | true =>
      have state : table.state action = .missing := by simpa [isMissing] using present
      have empty : table.codes action = [] := consistent.codes_eq_nil (by simp [state])
      simp [present, ih, empty]

/-- Every bound code stands in the list of one action. -/
theorem Consistent.length_boundCodes (positive : 1 ≤ table.limits.keyMin)
    (consistent : table.Consistent) :
    table.boundCodes.length = (Action.all.flatMap table.codes).length := by
  have lists : (Action.all.flatMap table.codes).Nodup := by
    refine List.nodup_flatMap.mpr ⟨fun action _ => consistent.distinct action, ?_⟩
    refine Action.all_nodup.imp fun differ => List.disjoint_left.mpr fun code mine theirs => ?_
    exact differ (consistent.unshared mine theirs)
  -- Both list exactly the codes that have an owner, and neither lists one twice.
  have same : ∀ code, code ∈ table.boundCodes.map Prod.fst ↔ code ∈ Action.all.flatMap table.codes := by
    intro code
    simp only [List.mem_map, List.mem_flatMap, Prod.exists, exists_and_right, exists_eq_right,
      boundCodes, consistent.ordered.mem_items_iff positive]
    exact exists_congr fun action => by
      rw [← consistent.owner_iff code action]
      simp [lookup, Action.mem_all]
  have perm := (List.perm_ext_iff_of_nodup (consistent.ordered.items_distinct) lists).mpr same
  rw [← perm.length_eq, ReverseMap.codesOf, List.length_map, boundCodes]

/-- When only one action's list changes, the number of bound codes changes by as much. -/
theorem Consistent.length_boundCodes_change {after : Table} (positive : 1 ≤ table.limits.keyMin)
    (before : table.Consistent) (consistent : after.Consistent) (limits : after.limits = table.limits)
    (action : Action) (others : ∀ other, other ≠ action → after.codes other = table.codes other) :
    after.boundCodes.length + (table.codes action).length =
      table.boundCodes.length + (after.codes action).length := by
  -- The codes of one action are counted apart from those of all others, which stay.
  have split (codes : Action → List Int) : (Action.all.flatMap codes).length =
      (codes action).length + ((Action.all.erase action).flatMap codes).length := by
    have apart := (List.perm_cons_erase (Action.mem_all action)).flatMap_right codes
    rw [apart.length_eq, List.flatMap_cons, List.length_append]
  have rest : (Action.all.erase action).flatMap after.codes =
      (Action.all.erase action).flatMap table.codes := by
    apply List.flatMap_congr
    intro other member
    exact others other (Action.all_nodup.mem_erase_iff.mp member).1
  rw [consistent.length_boundCodes (limits ▸ positive), before.length_boundCodes positive,
    split after.codes, split table.codes, rest]
  omega

end Table

/-! ### One line -/

namespace KeysFile

namespace Loading

variable {loading : Loading} {action : Action}

/-- A line whose names stand for different keys that nobody has gives them all to its action. -/
theorem bindNames_free (number : Nat) (names : List Text.Points)
    (positive : 1 ≤ loading.table.limits.keyMin) (consistent : loading.table.Consistent)
    (distinct : (names.map loading.table.keyboard.codeOfPoints).Nodup)
    (free : ∀ name ∈ names, loading.table.lookup (loading.table.keyboard.codeOfPoints name) = none)
    (valid : ∀ name ∈ names,
      loading.table.limits.isValid (loading.table.keyboard.codeOfPoints name) = true) :
    ∃ after, names.foldl (fun loading name => loading.bindName number action name) loading =
        { loading with table := after,
                       report.assigned := loading.report.assigned + names.length } ∧
      after.keyboard = loading.table.keyboard ∧ after.Consistent ∧
      after.binding action =
        (if names = [] then loading.table.binding action
         else ⟨.configured, loading.table.codes action ++
           names.map loading.table.keyboard.codeOfPoints⟩) ∧
      ∀ other, other ≠ action → after.binding other = loading.table.binding other := by
  let keys := (names.map loading.table.keyboard.codeOfPoints).map (·, action)
  have codes : keys.map Prod.fst = names.map loading.table.keyboard.codeOfPoints := by
    simp [keys, Function.comp_def]
  have bindable : ∃ after, loading.table.Binds keys after :=
    Table.Binds.of_free positive (by simpa [keys] using valid) (codes ▸ distinct)
      (by simpa [codes] using free)
  -- Distinct free codes can be bound one after another; the fold does exactly that.
  obtain ⟨after, binds⟩ := bindable
  refine ⟨after, ?_, binds.keyboard, binds.consistent positive consistent, ?_, fun other differ => ?_⟩
  · have asked : (names.map (Request.mk number action)).map (Request.key loading.table.keyboard) = keys := by
      simp [keys, Request.key, Function.comp_def]
    have run := bindRequests_of_binds (asked ▸ binds)
    rwa [List.foldl_map, List.length_map] at run
  · rw [binds.binding, Table.codesFor_one, if_pos rfl]
    simp only [List.map_eq_nil_iff]
  · apply binds.binding_others
    intro key member
    obtain ⟨code, -, rfl⟩ := List.mem_map.mp member
    exact differ.symm

theorem readLine_none (number : Nat) {line : Text.Points} (silent : parseLine? line = none) :
    loading.readLine number line = loading := by
  simp only [readLine, silent]

theorem readLine_mark (number : Nat) {line : Text.Points}
    (parsed : parseLine? line = some (↑action.label, [Text.points Table.undefinedMark])) :
    loading.readLine number line =
      { loading with table := loading.table.markUndefined action,
                     report.undefined := loading.report.undefined ++ [action] } := by
  simp [readLine, parsed, actionOf?_label]

theorem readLine_names (number : Nat) {line : Text.Points} {names : List Text.Points}
    (parsed : parseLine? line = some (↑action.label, names)) (some : names ≠ [])
    (bound : names ≠ [Text.points Table.undefinedMark]) :
    loading.readLine number line =
      names.foldl (fun loading name => loading.bindName number action name) loading := by
  simp [readLine, parsed, actionOf?_label, some, bound]

theorem readLines_append (loading : Loading) (number : Nat) (lines more : List Text.Points) :
    loading.readLines number (lines ++ more) =
      (loading.readLines number lines).readLines (number + lines.length) more := by
  induction lines generalizing loading number with
  | nil => rfl
  | cons line rest ih =>
    rw [List.cons_append, readLines, readLines, ih, List.length_cons]
    congr 1
    omega

theorem readLines_silent (loading : Loading) (number : Nat) (lines : List Text.Points)
    (silent : ∀ line ∈ lines, parseLine? line = none) :
    loading.readLines number lines = loading := by
  induction lines generalizing number with
  | nil => rfl
  | cons line rest ih =>
    rw [readLines, readLine_none number (silent line List.mem_cons_self)]
    exact ih _ fun other member => silent other (List.mem_cons_of_mem _ member)

/-- Lines with the mark leave their actions without keys and all others as they were. -/
theorem readLines_marks (number : Nat) (actions : List Action)
    (positive : 1 ≤ loading.table.limits.keyMin) (consistent : loading.table.Consistent) :
    let marks := actions.map fun action => Text.points (action.label ++ "  " ++ Table.undefinedMark)
    (loading.readLines number marks).table.keyboard = loading.table.keyboard ∧
      (loading.readLines number marks).table.Consistent ∧
      ∀ action, (loading.readLines number marks).table.binding action =
        if action ∈ actions then ⟨.undefined, []⟩ else loading.table.binding action := by
  induction actions generalizing loading number with
  | nil => exact ⟨rfl, consistent, fun action => (if_neg List.not_mem_nil).symm⟩
  | cons first rest ih =>
    have parsed := parseLine?_mark first
    have limits := Table.limits_markUndefined loading.table first
    simp only [List.map_cons, readLines, readLine_mark number parsed]
    obtain ⟨keyboard, held, binding⟩ := @ih
      { loading with table := loading.table.markUndefined first,
                     report.undefined := loading.report.undefined ++ [first] } (number + 1)
      (limits.symm ▸ positive) (consistent.markUndefined positive first)
    refine ⟨keyboard.trans (Table.keyboard_markUndefined _ _), held, fun action => ?_⟩
    rw [binding, Table.binding_markUndefined]
    -- A later mark for the same action finds it undefined already.
    by_cases here : action = first <;> simp [here]

end Loading

/-! ### The whole file -/

/-- How far a table is restored: the actions whose lines are still to come have no key yet, all
others have what they had, and what was counted so far makes up the whole with what is to come. -/
structure Restored (table : Table) (remaining : List Action) (loading : Loading) : Prop where
  keyboard : loading.table.keyboard = table.keyboard
  consistent : loading.table.Consistent
  binding : ∀ action,
    loading.table.binding action = if action ∈ remaining then {} else table.binding action
  assigned : loading.report.assigned + (remaining.flatMap table.codes).length =
    table.boundCodes.length
  undefined : loading.report.undefined ++ remaining.filter table.isUndefined = table.undefinedActions
  others : loading.report =
    { assigned := loading.report.assigned, undefined := loading.report.undefined }

section

variable {table : Table} {action : Action} {remaining : List Action} {loading : Loading}

theorem Restored.codes (restored : Restored table remaining loading) (other : Action) :
    loading.table.codes other = if other ∈ remaining then [] else table.codes other := by
  rw [Table.codes, restored.binding]
  split <;> rfl

theorem Restored.free (consistent : table.Consistent) (restored : Restored table remaining loading)
    (waiting : action ∈ remaining) {code : Int} (bound : code ∈ table.codes action) :
    loading.table.lookup code = none := by
  rw [restored.consistent.unowned_iff]
  intro other
  rw [restored.codes]
  split
  · exact List.not_mem_nil
  next done =>
    intro theirs
    exact done (consistent.unshared bound theirs ▸ waiting)

/-- One action further, when the action got what it had and the report grew by that. -/
theorem Restored.next (restored : Restored table (action :: remaining) loading)
    (once : action ∉ remaining) {after : Loading}
    (keyboard : after.table.keyboard = loading.table.keyboard) (consistent : after.table.Consistent)
    (mine : after.table.binding action = table.binding action)
    (theirs : ∀ other, other ≠ action → after.table.binding other = loading.table.binding other)
    (report : after.report = { loading.report with
      assigned := loading.report.assigned + (table.codes action).length
      undefined := loading.report.undefined ++ [action].filter table.isUndefined }) :
    Restored table remaining after := by
  -- Each part of the invariant moves the line's share from what is to come to what was read.
  refine ⟨keyboard.trans restored.keyboard, consistent, fun other => ?_, ?_, ?_, ?_⟩
  · by_cases here : other = action
    · rw [here, mine, if_neg once]
    · rw [theirs other here, restored.binding other]
      simp [here]
  · rw [report, ← restored.assigned, List.flatMap_cons, List.length_append]
    exact Nat.add_assoc _ _ _
  · rw [report, ← restored.undefined, List.append_assoc, ← List.filter_append]
    rfl
  · rw [report, restored.others]

/-- The mark on the line of an action leaves it without keys again. -/
theorem Restored.readMark (positive : 1 ≤ table.limits.keyMin) (consistent : table.Consistent)
    (unbound : table.isUndefined action = true) (once : action ∉ remaining) (number : Nat)
    {line : Text.Points} (parsed : parseLine? line = some (↑action.label, [Text.points Table.undefinedMark]))
    (restored : Restored table (action :: remaining) loading) :
    Restored table remaining (loading.readLine number line) := by
  -- The action is undefined in the table that was saved, and so it has no codes there.
  have state : table.state action = .undefined := by simpa [Table.isUndefined] using unbound
  have empty : table.codes action = [] := consistent.codes_eq_nil (by simp [state])
  have positive' : 1 ≤ loading.table.limits.keyMin := by
    rw [Table.limits, restored.keyboard]
    exact positive
  rw [Loading.readLine_mark number parsed]
  refine restored.next once (Table.keyboard_markUndefined _ _)
    (restored.consistent.markUndefined positive' action) ?_ (fun other differ => ?_) ?_
  · rw [Table.binding_markUndefined, if_pos rfl, ← state, ← empty]
    rfl
  · rw [Table.binding_markUndefined, if_neg differ]
  · simp [empty, unbound]

/-- The names on the line of an action give it its keys back. -/
theorem Restored.readNames (positive : 1 ≤ table.limits.keyMin) (consistent : table.Consistent)
    (named : table.WellNamed) (unlike : table.keyNames action ≠ [Table.undefinedMark])
    (bound : table.state action = .configured) (once : action ∉ remaining) (number : Nat)
    {line : Text.Points}
    (parsed : parseLine? line = some (↑action.label, (table.keyNames action).map Text.points))
    (restored : Restored table (action :: remaining) loading) :
    Restored table remaining (loading.readLine number line) := by
  have limits : loading.table.limits = table.limits :=
    congrArg Keyboard.limits restored.keyboard
  let names := (table.keyNames action).map Text.points
  have codes : names.map loading.table.keyboard.codeOfPoints = table.codes action := by
    rw [← named.codeOf_keyNames, restored.keyboard]
    simp [names]
  have some : names ≠ [] := by
    intro none
    rw [none] at codes
    exact (consistent.configured_iff action).mp bound codes.symm
  have unmarked : names ≠ [Text.points Table.undefinedMark] := fun marked =>
    unlike (Text.map_points_inj.mp marked)
  -- Well-named keys give back the codes that the action had, and those are still free.
  have mem_codes : ∀ name ∈ names, loading.table.keyboard.codeOfPoints name ∈ table.codes action :=
    fun name member => codes ▸ List.mem_map_of_mem member
  obtain ⟨after, run, keyboard, held, mine, theirs⟩ :=
    @Loading.bindNames_free loading action number names (limits ▸ positive)
      restored.consistent (codes ▸ consistent.distinct action)
      (fun name member => restored.free consistent List.mem_cons_self (mem_codes name member))
      (fun name member => limits.symm ▸ consistent.valid (mem_codes name member))
  rw [Loading.readLine_names number parsed some unmarked, run]
  refine restored.next once keyboard held ?_ theirs ?_
  · rw [mine, if_neg some, codes, Table.codes, restored.binding action, if_pos List.mem_cons_self,
      ← bound]
    rfl
  · have configured : table.isUndefined action = false := by simp [Table.isUndefined, bound]
    simp [← codes, configured]

/-- The line of an action restores that action. -/
theorem Restored.readLine (positive : 1 ≤ table.limits.keyMin) (consistent : table.Consistent)
    (named : table.WellNamed) (unlike : table.keyNames action ≠ [Table.undefinedMark])
    (present : table.isMissing action = false) (once : action ∉ remaining) (number : Nat)
    (restored : Restored table (action :: remaining) loading) :
    Restored table remaining (loading.readLine number (writtenLine table action)) := by
  have parsed := parseLine?_writtenLine table action (named.isKeyName action)
  by_cases unbound : table.isUndefined action = true
  · rw [if_pos unbound] at parsed
    exact restored.readMark positive consistent unbound once number parsed
  · rw [if_neg unbound] at parsed
    -- The line is there, so the action is not missing, and it has no mark.
    have bound : table.state action = .configured := by
      cases state : table.state action with
      | configured => rfl
      | undefined => simp [Table.isUndefined, state] at unbound
      | missing => simp [Table.isMissing, state] at present
    exact restored.readNames positive consistent named unlike bound once number parsed

theorem Restored.readLines (positive : 1 ≤ table.limits.keyMin) (consistent : table.Consistent)
    (named : table.WellNamed)
    (unlike : ∀ action, table.keyNames action ≠ [Table.undefinedMark])
    (present : ∀ action ∈ remaining, table.isMissing action = false) (once : remaining.Nodup)
    (number : Nat) (restored : Restored table remaining loading) :
    Restored table []
      (loading.readLines number (remaining.map fun action => Text.points (writtenLine table action))) := by
  induction remaining generalizing loading number with
  | nil => exact restored
  | cons action rest ih =>
    obtain ⟨absent, tail⟩ := List.nodup_cons.mp once
    have step := restored.readLine positive consistent named (unlike action)
      (present action List.mem_cons_self) absent number
    exact ih (fun other member => present other (List.mem_cons_of_mem _ member)) tail _ step

end

/-- Nothing is restored before the first line: an action without a line never had a key. -/
theorem Restored.start {table : Table} (positive : 1 ≤ table.limits.keyMin)
    (consistent : table.Consistent) :
    Restored table (writtenActions table) ⟨Table.fresh table.keyboard, {}⟩ := by
  -- An action without a line is missing, so the fresh table has it right already.
  have missing : ∀ action, action ∉ writtenActions table → table.binding action = {} := by
    intro action unwritten
    have state : table.state action = .missing := by
      simpa [writtenActions, Action.mem_all, Table.isMissing] using unwritten
    have empty : table.codes action = [] := consistent.codes_eq_nil (by simp [state])
    rw [← state, ← empty]
    rfl
  refine ⟨rfl, .fresh _, fun action => ?_, ?_, ?_, rfl⟩
  · rw [Table.binding_fresh]
    split
    · rfl
    next unwritten => exact (missing action unwritten).symm
  · rw [consistent.length_boundCodes positive, ← consistent.codes_present Action.all, Nat.zero_add]
    rfl
  · rw [List.nil_append, writtenActions, List.filter_filter, Table.undefinedActions]
    apply List.filter_congr
    intro action _
    cases state : table.state action <;> simp [Table.isUndefined, Table.isMissing, state]

/-- A table whose keys have names that stand for them is restored from its keys file. -/
theorem Restored.whole {table : Table} (positive : 1 ≤ table.limits.keyMin)
    (consistent : table.Consistent) (named : table.WellNamed)
    (unlike : ∀ action, table.keyNames action ≠ [Table.undefinedMark]) :
    Restored table [] (loadText (Table.fresh table.keyboard) (render table)) := by
  rw [loadText, load, lines_render table fun action _ => named.isKeyName action, Loading.readLines_append,
    Loading.readLines_silent _ _ _ header_says_nothing]
  refine (Restored.start positive consistent).readLines positive consistent named unlike ?_ ?_ _
  · intro action written
    simpa using (List.mem_filter.mp written).2
  · exact Action.all_nodup.filter _

theorem Restored.report {table : Table} {loading : Loading} (restored : Restored table [] loading) :
    loading.report = { assigned := table.boundCodes.length, undefined := table.undefinedActions } := by
  rw [restored.others, ← restored.assigned, ← restored.undefined]
  simp

theorem Restored.lookup {table : Table} {loading : Loading} (consistent : table.Consistent)
    (restored : Restored table [] loading) (code : Int) :
    loading.table.lookup code = table.lookup code := by
  apply Option.ext
  intro action
  rw [restored.consistent.owner_iff, consistent.owner_iff, restored.codes,
    if_neg List.not_mem_nil]

/-- Loading the keys file of a reachable table into a fresh table of the same keyboard refuses
nothing and gives back every state, every list of keys in its order and every owner. The report
counts the bound keys and lists the actions without keys on purpose in their order. -/
theorem loadText_render (table : Table) (reachable : table.IsReachable)
    (positive : 1 ≤ table.limits.keyMin) (named : table.WellNamed)
    (unlike : ∀ action, table.keyNames action ≠ ["UNDEFINED"]) :
    let loading := loadText (Table.fresh table.keyboard) (render table)
    loading.report.problems = [] ∧
    (∀ action, loading.table.state action = table.state action ∧
      loading.table.codes action = table.codes action) ∧
    (∀ code, loading.table.lookup code = table.lookup code) ∧
    loading.report.assigned = table.boundCodes.length ∧
    (∀ action, action ∈ loading.report.undefined ↔ table.state action = .undefined) ∧
    (loading.report.undefined.map Action.ordinal).Pairwise (· < ·) := by
  intro loading
  have consistent := reachable.consistent positive
  -- After the last line nothing remains to be restored.
  have restored := Restored.whole positive consistent named unlike
  have binding : ∀ action, loading.table.binding action = table.binding action := fun action => by
    rw [restored.binding, if_neg List.not_mem_nil]
  have report : loading.report =
      { assigned := table.boundCodes.length, undefined := table.undefinedActions } :=
    restored.report
  refine ⟨?_, fun action => ?_, restored.lookup consistent, ?_, fun action => ?_, ?_⟩
  · rw [report]
  · exact ⟨congrArg Binding.state (binding action), congrArg Binding.codes (binding action)⟩
  · rw [report]
  · rw [report]
    exact table.mem_undefinedActions action
  · rw [report]
    exact table.undefinedActions_ascending

/-- A table with a key, an action without keys on purpose and missing actions. -/
theorem loadText_render_small :
    let table := (Table.fresh ⟨{}, Terminal.usualName⟩).editAll
      [.assign 1 .quit, .assign 2 .quit, .markUndefined .help]
    1 ≤ table.limits.keyMin ∧ table.WellNamed ∧
      (loadText (Table.fresh table.keyboard) (render table)).report.problems = [] := by
  intro table
  have lists : ∀ action, table.codes action = if action = .quit then [1, 2] else [] := by
    intro action
    cases action <;> rfl
  have named : table.WellNamed := by
    intro action code bound
    rw [lists] at bound
    split at bound
    · rcases List.mem_cons.mp bound with rfl | last
      · exact ⟨"^A", by decide, by simp [Text.isAsciiBlank], by decide⟩
      · obtain rfl := List.mem_singleton.mp last
        exact ⟨"^B", by decide, by simp [Text.isAsciiBlank], by decide⟩
    · cases bound
  have unlike : ∀ action, table.keyNames action ≠ ["UNDEFINED"] := by
    intro action marked
    have back := named.codeOf_keyNames action
    rw [marked, lists] at back
    split at back <;> simp at back
  exact ⟨by decide, named, (loadText_render table ⟨_, rfl⟩ (by decide) named unlike).1⟩

end KeysFile

end KeyBindings
