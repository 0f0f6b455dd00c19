import KeyBindings.Proofs.KeysFile.AnyKeys
import Mathlib.Data.List.Induction

/-!
# The order of the lines of a keys file

A file whose load has nothing to note names no key twice, so where every label heads one line at most,
each line does its work on its own. An action gets what its own line says, and the lines can stand in
any order.
-/
namespace KeyBindings.KeysFile

/-! ### What some lines say -/

/-- The names behind the label of an action, if a line begins with it. -/
def saidOf (lines : List Text.Points) (action : Action) : Option (List Text.Points) :=
  (lines.filterMap parseLine?).lookup (Text.points action.label)

/-- No two lines begin with the same label. -/
def SingleLabels (lines : List Text.Points) : Prop := ((lines.filterMap parseLine?).map Prod.fst).Nodup

/-- What an action without keys gets from the names behind its label. -/
def bindingFrom (keyboard : Keyboard) : Option (List Text.Points) → Binding
  | none => {}
  | some names =>
    if names = [Text.points Table.undefinedMark] then ⟨.undefined, []⟩
    else ⟨.configured, names.map keyboard.codeOfPoints⟩

/-- Does a line say nothing that must be refused, whatever is bound? -/
def IsKnown (line : Text.Points) : Prop :=
  ∀ label names, parseLine? line = some (label, names) →
    (∃ action : Action, label = action.label) ∧ names ≠ []

/-- Every line that says something has the label of an action and names, and all the names stand for
different key codes. -/
structure Sound (keyboard : Keyboard) (lines : List Text.Points) : Prop where
  known : ∀ line ∈ lines, IsKnown line
  valid : ∀ name ∈ lines.flatMap namesOn, keyboard.limits.isValid (keyboard.codeOfPoints name) = true
  distinct : ((lines.flatMap namesOn).map keyboard.codeOfPoints).Nodup

variable {keyboard : Keyboard} {lines other : List Text.Points} {action : Action}

theorem Sound.perm (sound : Sound keyboard lines) (reordered : lines.Perm other) : Sound keyboard other where
  known line member := sound.known line (reordered.mem_iff.mpr member)
  valid name member := sound.valid name ((reordered.flatMap_right namesOn).mem_iff.mpr member)
  distinct := ((reordered.flatMap_right namesOn).map keyboard.codeOfPoints).nodup_iff.mp sound.distinct

theorem SingleLabels.perm (single : SingleLabels lines) (reordered : lines.Perm other) : SingleLabels other :=
  ((reordered.filterMap parseLine?).map Prod.fst).nodup_iff.mp single

/-- Where no label comes twice, the names of an action are those on the line with its label. -/
theorem saidOf_eq_some_iff (single : SingleLabels lines) (names : List Text.Points) :
    saidOf lines action = some names ↔
      ∃ line ∈ lines, parseLine? line = some (↑action.label, names) := by
  rw [saidOf, Entries.lookup_eq_some_iff _ _ _ single, List.mem_filterMap]

theorem saidOf_perm (single : SingleLabels lines) (reordered : lines.Perm other) (action : Action) :
    saidOf other action = saidOf lines action := by
  apply Option.ext
  intro names
  rw [saidOf_eq_some_iff single, saidOf_eq_some_iff (single.perm reordered)]
  simp only [reordered.mem_iff]

/-! ### One line more -/

theorem SingleLabels.initial {line : Text.Points} (single : SingleLabels (lines ++ [line])) :
    SingleLabels lines := by
  rw [SingleLabels, List.filterMap_append, List.map_append] at single
  exact (List.nodup_append.mp single).1

theorem saidOf_silent {line : Text.Points} (silent : parseLine? line = none) (action : Action) :
    saidOf (lines ++ [line]) action = saidOf lines action := by
  rw [saidOf, List.filterMap_append, List.filterMap_cons_none silent, List.filterMap_nil,
    List.append_nil, saidOf]

/-- A line says something of one action, of which no line before it said anything. -/
theorem saidOf_line {line : Text.Points} {names : List Text.Points} (single : SingleLabels (lines ++ [line]))
    (parsed : parseLine? line = some (↑action.label, names)) (owner : Action) :
    saidOf (lines ++ [line]) owner = if owner = action then some names else saidOf lines owner := by
  split
  next same =>
    rw [saidOf_eq_some_iff single]
    exact ⟨line, by simp, same ▸ parsed⟩
  next differ =>
    have foreign : Text.points owner.label ≠ Text.points action.label := fun label =>
      differ (Action.label_injective (Text.points_inj.mp label))
    rw [saidOf, List.filterMap_append, List.filterMap_cons_some parsed, List.lookup_append,
      Entries.lookup_cons, if_neg foreign]
    simp [saidOf]

theorem saidOf_none {line : Text.Points} {names : List Text.Points} (single : SingleLabels (lines ++ [line]))
    (parsed : parseLine? line = some (↑action.label, names)) : saidOf lines action = none := by
  rw [Option.eq_none_iff_forall_ne_some]
  intro others said
  obtain ⟨earlier, member, same⟩ := (saidOf_eq_some_iff single.initial others).mp said
  -- Both lines would begin with the label.
  rw [SingleLabels, List.filterMap_append, List.filterMap_cons_some parsed, List.map_append] at single
  refine (List.nodup_append.mp single).2.2 action.label ?_ action.label (by simp) rfl
  exact List.mem_map.mpr ⟨_, List.mem_filterMap.mpr ⟨earlier, member, same⟩, rfl⟩

theorem namesOn_parsed {line label : Text.Points} {names : List Text.Points}
    (parsed : parseLine? line = some (label, names)) (unmarked : names ≠ [Text.points Table.undefinedMark]) :
    namesOn line = names := by
  simp only [namesOn, parsed, if_neg unmarked]

namespace Loading

variable {loading : Loading} {number : Nat} {line : Text.Points}

theorem bindNames_eq (loading : Loading) (number : Nat) (action : Action) (names : List Text.Points) :
    names.foldl (fun loading name => loading.bindName number action name) loading =
      (names.map (Request.mk number action)).foldl bindRequest loading := by
  rw [List.foldl_map]
  rfl

theorem problems_readLine (loading : Loading) (number : Nat) (line : Text.Points) :
    loading.report.problems <+: (loading.readLine number line).report.problems := by
  unfold readLine
  split
  · exact List.prefix_refl _
  · split
    · exact List.prefix_append _ _
    · split
      · exact List.prefix_append _ _
      · split
        · exact List.prefix_refl _
        · rw [bindNames_eq]
          exact problems_bindRequests _ loading

/-- A line that was read without a problem says nothing that must be refused, and its names stood for
different key codes that nobody had. -/
theorem of_clean_line (positive : 1 ≤ loading.table.limits.keyMin)
    (clean : (loading.readLine number line).report.problems = []) :
    IsKnown line ∧
    (∀ name ∈ namesOn line,
      loading.table.limits.isValid (loading.table.keyboard.codeOfPoints name) = true ∧
        loading.table.lookup (loading.table.keyboard.codeOfPoints name) = none) ∧
    ((namesOn line).map loading.table.keyboard.codeOfPoints).Nodup := by
  -- Every way to read a line but three notes a problem: it says nothing, or has the mark, or all its
  -- names were bound.
  unfold readLine at clean
  split at clean
  next silent => exact ⟨by simp [IsKnown, silent], by simp [namesOn, silent], by simp [namesOn, silent]⟩
  next label names parsed =>
    split at clean
    · simp [refuse] at clean
    next action found =>
      obtain rfl := label_of_actionOf? found
      split at clean
      · simp [refuse] at clean
      next filled =>
        have known : IsKnown line := by
          intro label others same
          obtain ⟨rfl, rfl⟩ := Prod.mk.inj (Option.some.inj (parsed.symm.trans same))
          exact ⟨⟨action, rfl⟩, by simpa using filled⟩
        split at clean
        next marked =>
          exact ⟨known, by simp [namesOn, parsed, marked], by simp [namesOn, parsed, marked]⟩
        next unmarked =>
          rw [bindNames_eq] at clean
          obtain ⟨after, binds⟩ := binds_of_clean clean
          obtain ⟨distinct, free⟩ := binds.free positive
          have valid := binds.valid
          rw [namesOn_parsed parsed unmarked]
          simp only [List.map_map, Request.key, Function.comp_def, List.mem_map, forall_exists_index,
            and_imp, forall_apply_eq_imp_iff₂] at distinct free valid
          exact ⟨known, fun name member => ⟨valid name member, free name member⟩, distinct⟩

end Loading

/-! ### All lines -/

/-- A load that has nothing to note has given every action what the lines say of it. -/
structure Laid (keyboard : Keyboard) (lines : List Text.Points) (loading : Loading) : Prop where
  keyboard_eq : loading.table.keyboard = keyboard
  consistent : loading.table.Consistent
  known : ∀ line ∈ lines, IsKnown line
  binding_eq : ∀ action, loading.table.binding action = bindingFrom keyboard (saidOf lines action)
  clean : loading.report.problems = []
  assigned_eq : loading.report.assigned = (lines.flatMap namesOn).length

theorem mem_namesOn_iff (line name : Text.Points) :
    name ∈ namesOn line ↔ ∃ label names, parseLine? line = some (label, names) ∧
      names ≠ [Text.points Table.undefinedMark] ∧ name ∈ names := by
  unfold namesOn
  split
  next silent => simp [silent]
  next label names parsed =>
    by_cases marked : names = [Text.points Table.undefinedMark] <;> simp [parsed, marked]

theorem mem_codes_bindingFrom (keyboard : Keyboard) (said : Option (List Text.Points)) (code : Int) :
    code ∈ (bindingFrom keyboard said).codes ↔
      ∃ names, said = some names ∧ names ≠ [Text.points Table.undefinedMark] ∧
        code ∈ names.map keyboard.codeOfPoints := by
  unfold bindingFrom
  split
  · simp
  next names => by_cases marked : names = [Text.points Table.undefinedMark] <;> simp [marked]

namespace Laid

variable {loading : Loading} {line : Text.Points}

theorem fresh (keyboard : Keyboard) : Laid keyboard [] ⟨Table.fresh keyboard, {}⟩ :=
  ⟨rfl, .fresh keyboard, by simp, fun action => Table.binding_fresh keyboard action, rfl, rfl⟩

/-- The keys that are free are those that no line names. -/
theorem lookup_eq_none_iff (laid : Laid keyboard lines loading) (single : SingleLabels lines) (code : Int) :
    loading.table.lookup code = none ↔ code ∉ (lines.flatMap namesOn).map keyboard.codeOfPoints := by
  rw [laid.consistent.unowned_iff]
  simp only [Table.codes, laid.binding_eq, mem_codes_bindingFrom, saidOf_eq_some_iff single]
  constructor
  · intro free named
    obtain ⟨name, inLines, rfl⟩ := List.mem_map.mp named
    obtain ⟨line, member, onLine⟩ := List.mem_flatMap.mp inLines
    obtain ⟨label, names, parsed, unmarked, isName⟩ := (mem_namesOn_iff line name).mp onLine
    obtain ⟨⟨action, rfl⟩, -⟩ := laid.known line member label names parsed
    exact free action ⟨names, ⟨line, member, parsed⟩, unmarked, List.mem_map_of_mem isName⟩
  · rintro unnamed action ⟨names, ⟨line, member, parsed⟩, unmarked, held⟩
    obtain ⟨name, isName, rfl⟩ := List.mem_map.mp held
    have onLine := (mem_namesOn_iff line name).mpr ⟨_, names, parsed, unmarked, isName⟩
    exact unnamed (List.mem_map_of_mem (List.mem_flatMap.mpr ⟨line, member, onLine⟩))

/-- One line more, when its action got what the line says and nothing else changed. -/
theorem next (laid : Laid keyboard lines loading) (single : SingleLabels (lines ++ [line]))
    {names : List Text.Points} (parsed : parseLine? line = some (↑action.label, names)) (filled : names ≠ [])
    {after : Loading}
    (sameKeyboard : after.table.keyboard = loading.table.keyboard) (consistent : after.table.Consistent)
    (mine : after.table.binding action = bindingFrom keyboard (some names))
    (theirs : ∀ other, other ≠ action → after.table.binding other = loading.table.binding other)
    (clean : after.report.problems = loading.report.problems)
    (assigned : after.report.assigned = loading.report.assigned + (namesOn line).length) :
    Laid keyboard (lines ++ [line]) after where
  keyboard_eq := sameKeyboard.trans laid.keyboard_eq
  consistent := consistent
  known := by
    intro other member
    rcases List.mem_append.mp member with old | new
    · exact laid.known other old
    · obtain rfl := List.mem_singleton.mp new
      intro label others same
      obtain ⟨rfl, rfl⟩ := Prod.mk.inj (Option.some.inj (parsed.symm.trans same))
      exact ⟨⟨action, rfl⟩, filled⟩
  binding_eq := by
    intro owner
    rw [saidOf_line single parsed]
    -- The new line speaks for its own label only, because no label stands twice.
    split
    next here => exact here ▸ mine
    next differ => exact (theirs owner differ).trans (laid.binding_eq owner)
  clean := clean.trans laid.clean
  assigned_eq := by simp [assigned, laid.assigned_eq]

theorem readLine (laid : Laid keyboard lines loading) (positive : 1 ≤ keyboard.limits.keyMin)
    (single : SingleLabels (lines ++ [line])) (known : IsKnown line)
    (free : ∀ name ∈ namesOn line, keyboard.limits.isValid (keyboard.codeOfPoints name) = true ∧
      loading.table.lookup (keyboard.codeOfPoints name) = none)
    (distinct : ((namesOn line).map keyboard.codeOfPoints).Nodup) (number : Nat) :
    Laid keyboard (lines ++ [line]) (loading.readLine number line) := by
  obtain rfl := laid.keyboard_eq
  cases parsed : parseLine? line with
  | none =>
    have none : namesOn line = [] := by simp [namesOn, parsed]
    rw [Loading.readLine_none number parsed]
    constructor
    case keyboard_eq => rfl
    case consistent => exact laid.consistent
    case known =>
      intro other member
      rcases List.mem_append.mp member with old | new
      · exact laid.known other old
      · exact List.mem_singleton.mp new ▸ known
    case binding_eq =>
      intro action
      rw [saidOf_silent parsed]
      exact laid.binding_eq action
    case clean => exact laid.clean
    case assigned_eq => simp [laid.assigned_eq, none]
  | some fields =>
    obtain ⟨label, names⟩ := fields
    obtain ⟨⟨action, rfl⟩, filled⟩ := known label names parsed
    -- The action had no line, so it has had no key until now.
    have empty : loading.table.binding action = {} := by
      rw [laid.binding_eq, saidOf_none single parsed]
      rfl
    by_cases marked : names = [Text.points Table.undefinedMark]
    · -- The mark takes no keys away, for there are none.
      subst marked
      rw [Loading.readLine_mark number parsed]
      refine laid.next single parsed filled (Table.keyboard_markUndefined _ _)
        (laid.consistent.markUndefined positive action) ?_ (fun other differ => ?_) rfl ?_
      · rw [Table.binding_markUndefined, if_pos rfl]
        rfl
      · rw [Table.binding_markUndefined, if_neg differ]
      · simp [namesOn, parsed]
    · rw [namesOn_parsed parsed marked] at free distinct
      obtain ⟨after, run, sameKeyboard, consistent, mine, theirs⟩ :=
        @Loading.bindNames_free loading action number names positive laid.consistent distinct
          (fun name member => (free name member).2) (fun name member => (free name member).1)
      rw [Loading.readLine_names number parsed filled marked, run]
      refine laid.next single parsed filled sameKeyboard consistent ?_ theirs rfl ?_
      · rw [mine, if_neg filled, Table.codes, empty, bindingFrom, if_neg marked, List.nil_append]
      · rw [namesOn_parsed parsed marked]

end Laid

theorem load_concat (table : Table) (lines : List Text.Points) (line : Text.Points) :
    load table (lines ++ [line]) = (load table lines).readLine (1 + lines.length) line := by
  rw [load, Loading.readLines_append]
  rfl

/-- Lines that ask for different keys, each under the label of an action of its own, are all carried out. -/
theorem laid_of_sound (positive : 1 ≤ keyboard.limits.keyMin) (single : SingleLabels lines)
    (sound : Sound keyboard lines) : Laid keyboard lines (load (Table.fresh keyboard) lines) := by
  induction lines using List.reverseRecOn with
  | nil => exact .fresh keyboard
  | append_singleton lines line ih =>
    obtain ⟨known, valid, distinct⟩ := sound
    simp only [List.flatMap_append, List.flatMap_singleton, List.map_append, List.mem_append,
      List.mem_singleton] at known valid distinct
    obtain ⟨before, here, apart⟩ := List.nodup_append.mp distinct
    have laid := ih single.initial
      ⟨fun other member => known other (.inl member), fun name member => valid name (.inl member), before⟩
    rw [load_concat]
    refine laid.readLine positive single (known line (.inr rfl)) (fun name member => ⟨?_, ?_⟩) here _
    · exact valid name (.inr member)
    · -- No line before names the same key, so nobody has it.
      rw [laid.lookup_eq_none_iff single.initial]
      exact fun earlier => apart _ earlier _ (List.mem_map_of_mem member) rfl

/-- A load that has nothing to note has found all keys free, so no two names stood for one key. -/
theorem sound_of_clean (positive : 1 ≤ keyboard.limits.keyMin) (single : SingleLabels lines)
    (clean : (load (Table.fresh keyboard) lines).report.problems = []) : Sound keyboard lines := by
  induction lines using List.reverseRecOn with
  | nil => exact ⟨by simp, by simp, by simp⟩
  | append_singleton lines line ih =>
    rw [load_concat] at clean
    -- What is noted stays noted, so the lines before the last one had no problem either.
    have before := Loading.problems_readLine (load (Table.fresh keyboard) lines) (1 + lines.length) line
    rw [clean, List.prefix_nil] at before
    have sound := ih single.initial before
    have laid := laid_of_sound positive single.initial sound
    obtain ⟨known, free, distinct⟩ := Loading.of_clean_line
      (by rw [Table.limits, laid.keyboard_eq]; exact positive) clean
    rw [Table.limits, laid.keyboard_eq] at free
    rw [laid.keyboard_eq] at distinct
    constructor
    case known =>
      intro other member
      rcases List.mem_append.mp member with old | new
      · exact sound.known other old
      · exact List.mem_singleton.mp new ▸ known
    case valid =>
      rw [List.flatMap_append, List.flatMap_singleton]
      intro name member
      rcases List.mem_append.mp member with old | new
      · exact sound.valid name old
      · exact (free name new).1
    case distinct =>
      rw [List.flatMap_append, List.flatMap_singleton, List.map_append]
      refine List.nodup_append.mpr ⟨sound.distinct, distinct, fun code earlier again here => ?_⟩
      rintro rfl
      -- The key was free when the last line was read, so no line before named it.
      obtain ⟨name, member, rfl⟩ := List.mem_map.mp here
      exact (laid.lookup_eq_none_iff single.initial _).mp (free name member).2 earlier

/-- Lines that a fresh table takes without a problem, with no label at the head of two of them, can be
loaded in any order: nothing is refused, as many keys are bound, and every action comes to the same state
and the same keys in the same order, and every key to the same owner. -/
theorem load_perm (keyboard : Keyboard) (positive : 1 ≤ keyboard.limits.keyMin)
    (lines other : List Text.Points)
    (clean : (load (Table.fresh keyboard) lines).report.problems = [])
    (single : ((lines.filterMap parseLine?).map Prod.fst).Nodup) (reordered : lines.Perm other) :
    let first := load (Table.fresh keyboard) lines
    let second := load (Table.fresh keyboard) other
    second.report.problems = [] ∧ second.report.assigned = first.report.assigned ∧
    (∀ action, second.table.state action = first.table.state action ∧
      second.table.codes action = first.table.codes action) ∧
    ∀ code, second.table.lookup code = first.table.lookup code := by
  intro first second
  have single' : SingleLabels lines := single
  have sound := sound_of_clean positive single' clean
  have one := laid_of_sound positive single' sound
  have two := laid_of_sound positive (single'.perm reordered) (sound.perm reordered)
  have binding : ∀ action, second.table.binding action = first.table.binding action := by
    intro action
    rw [two.binding_eq, one.binding_eq, saidOf_perm single' reordered]
  have codes : ∀ action, second.table.codes action = first.table.codes action := fun action =>
    congrArg Binding.codes (binding action)
  refine ⟨two.clean, ?_, ?_, ?_⟩
  · rw [one.assigned_eq, two.assigned_eq, (reordered.flatMap_right namesOn).length_eq]
  · intro action
    exact ⟨congrArg Binding.state (binding action), codes action⟩
  · -- Equal lists have equal owners in consistent tables.
    intro code
    apply Option.ext
    intro action
    rw [two.consistent.owner_iff, one.consistent.owner_iff, codes]

/-- Two orders of a file with a comment, an empty line, names in two spellings and a mark. -/
theorem load_perm_shuffled :
    let keyboard : Keyboard := ⟨{}, Terminal.usualName⟩
    let lines : List Text.Points :=
      ["generic-quit  q Q", "# Editing", "generic-help UNDEFINED", "", "generic-save\té"]
    let other : List Text.Points :=
      ["generic-save\té", "", "generic-quit  q Q", "generic-help UNDEFINED", "# Editing"]
    (1 ≤ keyboard.limits.keyMin ∧ (load (Table.fresh keyboard) lines).report.problems = [] ∧
      ((lines.filterMap parseLine?).map Prod.fst).Nodup ∧ lines.Perm other) ∧
    (load (Table.fresh keyboard) other).report.problems = [] ∧
      (load (Table.fresh keyboard) other).table.lookup 233 =
        (load (Table.fresh keyboard) lines).table.lookup 233 := by
  intro keyboard lines other
  have positive : 1 ≤ keyboard.limits.keyMin := by decide
  have clean : (load (Table.fresh keyboard) lines).report.problems = [] := by decide +kernel
  have single : ((lines.filterMap parseLine?).map Prod.fst).Nodup := by decide +kernel
  have reordered : lines.Perm other := by decide +kernel
  have same := load_perm keyboard positive lines other clean single reordered
  exact ⟨⟨positive, clean, single, reordered⟩, same.1, same.2.2.2 233⟩

end KeyBindings.KeysFile
