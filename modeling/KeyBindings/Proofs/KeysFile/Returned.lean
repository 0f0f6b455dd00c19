import KeyBindings.Proofs.KeysFile.AnyKeys

/-!
# What a keys file gives back to an action

Only the line of an action binds keys to it. It finds the action without keys, and of the keys it
names it gives those back that no line before it has given to another action. So an action comes back
without keys on purpose when it had none, as missing when none of its keys has a name, and with a key
whenever it had one whose name is its own.
-/
namespace KeyBindings

open Keyboard (usual)

namespace Table

/-- A fresh table after it has read the keys file of a table. -/
def reload (table : Table) : Table :=
  (KeysFile.loadText (fresh table.keyboard) (KeysFile.render table)).table

/-- Every key of a table has come from a name that another table shows for the same action. -/
structure Drawn (source table : Table) : Prop where
  keyboard_eq : table.keyboard = usual
  consistent : table.Consistent
  names : ∀ action, ∀ code ∈ table.codes action,
    ∃ name ∈ source.keyNames action, usual.codeOf name = code

theorem Drawn.fresh (source : Table) : Drawn source (Table.fresh usual) :=
  ⟨rfl, .fresh usual, fun action code bound => by simp [codes] at bound⟩

end Table

namespace KeysFile

/-! ### The lines of other actions -/

/-- Lines without the label of an action leave it as it is. -/
theorem binding_readLines (action : Action) (lines : List Text.Points)
    (foreign : ∀ line ∈ lines, ∀ names, parseLine? line ≠ some (↑action.label, names))
    (loading : Loading) (number : Nat) :
    (loading.readLines number lines).table.binding action = loading.table.binding action := by
  -- Every change a line makes is to the action of its label, never to this one.
  let P (table : Table) : Prop := table.binding action = loading.table.binding action
  have differ : ∀ line ∈ lines, ∀ owner : Action, ∀ names,
      parseLine? line = some (↑owner.label, names) → action ≠ owner := by
    rintro line member _ names parsed rfl
    exact foreign line member names parsed
  have run : P (loading.readLines number lines).table := by
    refine readLines_follows lines ?_ ?_ loading number rfl
    · intro line member table owner held parsed
      have other := differ line member owner _ parsed
      exact (Table.binding_markUndefined table owner action).trans ((if_neg other).trans held)
    · intro line member before after owner names name held parsed _ _ assigned
      have other := differ line member owner names parsed
      exact (Table.binding_assign assigned action).trans ((if_neg other).trans held)
  exact run

section

variable {table : Table} (keyboard : table.keyboard = usual)
include keyboard

theorem named_of_mem_keyNames {action : Action} {name : String} (member : name ∈ table.keyNames action) :
    ∃ code ∈ table.codes action, usual.nameOf? code = some name := by
  rw [Table.keyNames, keyboard] at member
  exact List.mem_filterMap.mp member

theorem linesOfAction_usual (action : Action) :
    ∃ line strays, linesOfAction table action = line :: strays ∧
      parseLine? line = some (↑action.label, (lineNames table action).map Text.points) ∧
      ∀ stray ∈ strays, ∀ owner : Action, ∀ names, parseLine? stray ≠ some (↑owner.label, names) := by
  obtain ⟨line, strays, cut, parsed, behind⟩ := @linesOfAction_eq table action fun name member => by
    obtain ⟨code, -, named⟩ := named_of_mem_keyNames keyboard member
    exact Keyboard.isShownName named
  refine ⟨line, strays, cut, parsed, fun stray member owner names labelled => ?_⟩
  obtain ⟨name, shown, same⟩ := behind stray member _ names labelled
  obtain ⟨code, -, named⟩ := named_of_mem_keyNames keyboard shown
  exact owner.label_ne_name named (Text.points_inj.mp same).symm

/-- A line with the label of an action is the first line of that action. -/
theorem labelled_linesOfAction {owner action : Action} {line : Text.Points} {names : List Text.Points}
    (member : line ∈ linesOfAction table owner) (parsed : parseLine? line = some (↑action.label, names)) :
    owner = action ∧ names = (lineNames table action).map Text.points := by
  obtain ⟨first, strays, cut, own, behind⟩ := linesOfAction_usual keyboard owner
  rw [cut] at member
  rcases List.mem_cons.mp member with rfl | stray
  · rw [own] at parsed
    obtain ⟨label, rfl⟩ := Prod.mk.inj (Option.some.inj parsed)
    obtain rfl := Action.label_injective (Text.points_inj.mp label)
    exact ⟨rfl, rfl⟩
  · exact absurd parsed (behind line stray action names)

theorem labelled_lines {action : Action} {line : Text.Points} {names : List Text.Points}
    (member : line ∈ textLines (render table)) (parsed : parseLine? line = some (↑action.label, names)) :
    names = (lineNames table action).map Text.points := by
  rw [lines_render_any, List.mem_append] at member
  rcases member with inHeader | written
  · rw [header_says_nothing line inHeader] at parsed
    cases parsed
  · obtain ⟨owner, -, onLine⟩ := List.mem_flatMap.mp written
    exact (labelled_linesOfAction keyboard onLine parsed).2

/-- The file is cut in two by the line of an action, and neither part has its label. -/
theorem lines_render_written {action : Action} (written : action ∈ writtenActions table) :
    ∃ before line after, textLines (render table) = before ++ line :: after ∧
      parseLine? line = some (↑action.label, (lineNames table action).map Text.points) ∧
      (∀ other ∈ before, ∀ names, parseLine? other ≠ some (↑action.label, names)) ∧
      ∀ other ∈ after, ∀ names, parseLine? other ≠ some (↑action.label, names) := by
  obtain ⟨line, strays, cut, parsed, behind⟩ := linesOfAction_usual keyboard action
  obtain ⟨front, back, split, absent⟩ := List.eq_append_cons_of_mem written
  -- Every action is written once, so the lines around this one belong to others.
  have once : action ∉ back := by
    have distinct : (writtenActions table).Nodup := Action.all_nodup.filter _
    rw [split] at distinct
    exact (List.nodup_cons.mp (List.nodup_append.mp distinct).2.1).1
  have foreign : ∀ actions : List Action, action ∉ actions →
      ∀ other ∈ actions.flatMap (linesOfAction table), ∀ names,
        parseLine? other ≠ some (↑action.label, names) := by
    intro actions outside other member names labelled
    obtain ⟨owner, inActions, onLine⟩ := List.mem_flatMap.mp member
    exact outside ((labelled_linesOfAction keyboard onLine labelled).1 ▸ inActions)
  refine ⟨textLines header ++ front.flatMap (linesOfAction table), line,
    strays ++ back.flatMap (linesOfAction table), ?_, parsed, ?_, ?_⟩
  · rw [lines_render_any, split, List.flatMap_append, List.flatMap_cons, cut]
    simp
  · intro other member names labelled
    rcases List.mem_append.mp member with inHeader | inFront
    · rw [header_says_nothing other inHeader] at labelled
      cases labelled
    · exact foreign front absent other inFront names labelled
  · intro other member names labelled
    rcases List.mem_append.mp member with stray | inBack
    · exact behind other stray action names labelled
    · exact foreign back once other inBack names labelled

/-! ### The keys that a file gives -/

omit keyboard in
theorem mem_keyNames_of_lineNames {action : Action} {name : String}
    (unmarked : lineNames table action ≠ [Table.undefinedMark])
    (member : name ∈ lineNames table action) : name ∈ table.keyNames action := by
  unfold lineNames at unmarked member
  split at member
  next unbound => simp [unbound] at unmarked
  · exact List.takeWhile_subset _ (List.mem_filter.mp member).1

theorem drawn_readLines {loading : Loading} (drawn : table.Drawn loading.table) (number : Nat)
    (lines : List Text.Points) (written : ∀ line ∈ lines, line ∈ textLines (render table)) :
    table.Drawn (loading.readLines number lines).table := by
  refine readLines_follows lines ?_ ?_ loading number drawn
  · intro line member before action held _
    refine ⟨(Table.keyboard_markUndefined before action).trans held.keyboard_eq,
      held.consistent.markUndefined (Keyboard.keyMin_pos held.keyboard_eq) action,
      fun other code bound => ?_⟩
    exact held.names other code (Table.mem_codes_of_markUndefined bound)
  · intro line member before after action names name held parsed unmarked isName assigned
    refine ⟨(Table.keyboard_assign assigned).trans held.keyboard_eq,
      held.consistent.assign (Keyboard.keyMin_pos held.keyboard_eq) assigned, fun other code bound => ?_⟩
    rcases Table.mem_codes_of_assign assigned bound with old | ⟨rfl, rfl⟩
    · exact held.names other code old
    · -- The new key is the one that a name on the line of the action stands for.
      obtain rfl := labelled_lines keyboard (written line member) parsed
      obtain ⟨text, onLine, rfl⟩ := List.mem_map.mp isName
      have shown := mem_keyNames_of_lineNames (fun marked => unmarked (by rw [marked, List.map_singleton]))
        onLine
      exact ⟨text, shown, by rw [held.keyboard_eq, Keyboard.codeOfPoints_points]⟩

/-- What an action has after the file was read, it has from its own line. -/
theorem read_own_line {action : Action} (written : action ∈ writtenActions table) :
    ∃ (loading : Loading) (number : Nat) (line : Text.Points),
      parseLine? line = some (↑action.label, (lineNames table action).map Text.points) ∧
      loading.table.binding action = {} ∧ table.Drawn loading.table ∧
      table.Drawn (loading.readLine number line).table ∧
      table.reload.binding action = (loading.readLine number line).table.binding action := by
  obtain ⟨before, line, after, split, parsed, front, back⟩ := lines_render_written keyboard written
  let start : Loading := ⟨Table.fresh usual, {}⟩
  have inFront : ∀ other ∈ before, other ∈ textLines (render table) := fun other member =>
    split ▸ List.mem_append_left _ member
  have inFile : line ∈ textLines (render table) :=
    split ▸ List.mem_append_right _ List.mem_cons_self
  have drawn : table.Drawn (start.readLines 1 before).table :=
    drawn_readLines keyboard (.fresh table) 1 before inFront
  -- The line is read on its own: what is in front of it and behind it leaves the action as it is.
  have own := drawn_readLines keyboard drawn (1 + before.length) [line] fun other member =>
    List.mem_singleton.mp member ▸ inFile
  have whole : table.reload =
      (((start.readLines 1 before).readLine (1 + before.length) line).readLines
        (1 + before.length + 1) after).table := by
    rw [Table.reload, keyboard, loadText, load, split, Loading.readLines_append, Loading.readLines]
  refine ⟨start.readLines 1 before, 1 + before.length, line, parsed, ?_, drawn, own, ?_⟩
  · rw [binding_readLines action before front]
    exact Table.binding_fresh usual action
  · rw [whole, binding_readLines action after back]

end

/-! ### The names on a line -/

section

variable {action : Action} {loading : Loading} {name : Text.Points}

theorem lookup_of_assign {before after : Table} {other : Int} (keyboard : before.keyboard = usual)
    (assigned : before.assign other action = .ok after) (code : Int) :
    after.lookup code = some action ∨ after.lookup code = before.lookup code := by
  rw [Table.lookup_assign (Keyboard.keyMin_pos keyboard) assigned]
  by_cases new : code = other
  · exact .inl (if_pos new)
  · exact .inr (if_neg new)

/-- Can the action be given the key, or does it have it? -/
def IsOpen (action : Action) (code : Int) (table : Table) : Prop :=
  table.lookup code = none ∨ table.lookup code = some action

theorem lookup_bindName (keyboard : loading.table.keyboard = usual) (number : Nat)
    (valid : usual.limits.isValid (usual.codeOfPoints name) = true)
    (ready : IsOpen action (usual.codeOfPoints name) loading.table) :
    (loading.bindName number action name).table.keyboard = usual ∧
      (loading.bindName number action name).table.lookup (usual.codeOfPoints name) = some action := by
  unfold Loading.bindName
  rw [keyboard]
  split
  next after assigned =>
    refine ⟨(Table.keyboard_assign assigned).trans keyboard, ?_⟩
    rw [Table.lookup_assign (Keyboard.keyMin_pos keyboard) assigned, if_pos rfl]
  next reason refused =>
    -- A key code is refused only when it has an owner, and here that is the action.
    refine ⟨keyboard, ready.resolve_left fun free => ?_⟩
    have valid' : loading.table.limits.isValid (usual.codeOfPoints name) = true := by
      rw [Table.limits, keyboard]
      exact valid
    obtain ⟨after, assigned⟩ := Table.assign_free free valid' action
    rw [assigned] at refused
    cases refused

/-- A name whose key is free, or belongs to the action already, gives the action its key. -/
theorem lookup_bindNames {names : List Text.Points} (keyboard : loading.table.keyboard = usual) (number : Nat)
    (member : name ∈ names) (valid : usual.limits.isValid (usual.codeOfPoints name) = true)
    (ready : IsOpen action (usual.codeOfPoints name) loading.table) :
    (names.foldl (fun loading name => loading.bindName number action name) loading).table.lookup
      (usual.codeOfPoints name) = some action := by
  let Open (table : Table) : Prop := table.keyboard = usual ∧ IsOpen action (usual.codeOfPoints name) table
  let Owned (table : Table) : Prop := table.keyboard = usual ∧
    table.lookup (usual.codeOfPoints name) = some action
  -- Names before this one leave its key free or give it to the action, and names behind it keep it.
  obtain ⟨front, back, rfl⟩ := List.mem_iff_append.mp member
  rw [List.foldl_append, List.foldl_cons]
  have arrived := bindNames_keeps (P := Open) number action front
    (fun before after other held _ assigned => by
      refine ⟨(Table.keyboard_assign assigned).trans held.1, ?_⟩
      rcases lookup_of_assign held.1 assigned (usual.codeOfPoints name) with new | same
      · exact .inr new
      · unfold IsOpen
        rw [same]
        exact held.2)
    loading ⟨keyboard, ready⟩
  have given := lookup_bindName arrived.1 number valid arrived.2
  have kept := bindNames_keeps (P := Owned) number action back
    (fun before after other held _ assigned => by
      refine ⟨(Table.keyboard_assign assigned).trans held.1, ?_⟩
      rcases lookup_of_assign held.1 assigned (usual.codeOfPoints name) with new | same
      · exact new
      · exact same.trans held.2)
    _ given
  exact kept.2

end

/-! ### An action and its line -/

theorem mem_writtenActions {table : Table} {action : Action} (present : table.state action ≠ .missing) :
    action ∈ writtenActions table := by
  simp [writtenActions, Action.mem_all, Table.isMissing, present]

section

variable {table : Table} {action : Action} (keyboard : table.keyboard = usual)
include keyboard

/-- An action without keys on purpose comes back as it was. -/
theorem reload_undefined (unbound : table.state action = .undefined) :
    table.reload.binding action = ⟨.undefined, []⟩ := by
  have written : action ∈ writtenActions table := mem_writtenActions (by simp [unbound])
  obtain ⟨loading, number, line, parsed, -, -, -, same⟩ := read_own_line keyboard written
  rw [lineNames, if_pos (by simp [Table.isUndefined, unbound])] at parsed
  rw [same, Loading.readLine_mark number parsed, Table.binding_markUndefined, if_pos rfl]

theorem reload_unnamed (configured : table.state action = .configured)
    (unnamed : table.keyNames action = []) : table.reload.binding action = {} := by
  have written : action ∈ writtenActions table := mem_writtenActions (by simp [configured])
  obtain ⟨loading, number, line, parsed, empty, -, -, same⟩ := read_own_line keyboard written
  rw [lineNames, if_neg (by simp [Table.isUndefined, configured]), unnamed] at parsed
  rw [same, ← empty]
  simp [Loading.readLine, parsed, actionOf?_label, Loading.refuse]

theorem isOpen_of_alone {loaded : Table} (drawn : table.Drawn loaded) {code : Int} {name : String}
    (named : usual.nameOf? code = some name)
    (alone : ∀ other, other ≠ action → name ∉ table.keyNames other) :
    IsOpen action (usual.codeOf name) loaded := by
  unfold IsOpen
  cases owned : loaded.lookup (usual.codeOf name) with
  | none => exact .inl rfl
  | some owner =>
    -- Whoever has the key got it by a name of its own, which can only be this name.
    have bound := (drawn.consistent.owner_iff _ owner).mp owned
    obtain ⟨other, shown, equal⟩ := drawn.names owner _ bound
    obtain ⟨rival, -, named'⟩ := named_of_mem_keyNames keyboard shown
    obtain rfl := Keyboard.name_eq_of_codeOf named' named equal
    by_cases here : owner = action
    · exact .inr (congrArg some here)
    · exact absurd shown (alone owner here)

theorem reload_named (configured : table.state action = .configured) {name : String}
    (isName : IsKeyName name) (member : name ∈ table.keyNames action)
    (unbroken : "\n" ∉ table.keyNames action)
    (alone : ∀ other, other ≠ action → name ∉ table.keyNames other) :
    table.reload.state action = .configured ∧
      usual.codeOf name ∈ table.reload.codes action := by
  have written : action ∈ writtenActions table := mem_writtenActions (by simp [configured])
  obtain ⟨loading, number, line, parsed, -, drawn, after, same⟩ := read_own_line keyboard written
  -- The line that save wrote for the action keeps all of its names that can be read back.
  obtain ⟨code, -, named⟩ := named_of_mem_keyNames keyboard member
  rw [lineNames, if_neg (by simp [Table.isUndefined, configured]),
    List.takeWhile_eq_self_iff.mpr (ne_feed unbroken)] at parsed
  have listed : name ∈ (table.keyNames action).filter fun (name : String) => IsKeyName name :=
    List.mem_filter.mpr ⟨member, decide_eq_true isName⟩
  generalize (table.keyNames action).filter (fun (name : String) => IsKeyName name) = names at parsed listed
  have onLine : Text.points name ∈ names.map Text.points := List.mem_map_of_mem listed
  -- The name on the line is not the undefined mark, so the line binds.
  have unmarked : names.map Text.points ≠ [Text.points Table.undefinedMark] := by
    intro marked
    rw [marked, List.mem_singleton, Text.points_inj] at onLine
    exact Keyboard.name_ne_mark (onLine ▸ named)
  have ready := isOpen_of_alone keyboard drawn named alone
  have valid := Keyboard.isValid_of_named (Keyboard.nameOf?_codeOf named)
  rw [← usual.codeOfPoints_points] at ready valid ⊢
  -- No other line asks for the name, so the code it stands for is still free.
  have owned := lookup_bindNames drawn.keyboard_eq number onLine valid ready
  rw [← Loading.readLine_names number parsed (List.ne_nil_of_mem onLine) unmarked,
    after.consistent.owner_iff] at owned
  have configured' := (after.consistent.configured_iff action).mpr (List.ne_nil_of_mem owned)
  rw [Table.state, Table.codes, same]
  exact ⟨configured', owned⟩

end

/-- An action with keys keeps its state through its keys file when one of its keys has a name that
reads back: the name is no blank, no line feed breaks the line, and no key of another action has the
same name. The action has the key of that name afterwards. When no key of the action has a name, there is
nothing to write, and the action comes back as missing. -/
theorem configured_reload (table : Table) (keyboard : table.keyboard = usual) (action : Action)
    (configured : table.state action = .configured) :
    (∀ code ∈ table.codes action, ∀ name, usual.nameOf? code = some name →
      (∀ c, Text.isAsciiBlank c = true → code ≠ usual.limits.extendedCode c) →
      usual.limits.extendedCode '\n' ∉ table.codes action →
      (∀ other, other ≠ action → ∀ rival ∈ table.codes other, usual.nameOf? rival ≠ some name) →
      table.reload.state action = .configured ∧ usual.codeOf name ∈ table.reload.codes action) ∧
    ((∀ code ∈ table.codes action, usual.nameOf? code = none) →
      table.reload.state action = .missing ∧ table.reload.codes action = []) := by
  constructor
  · intro code bound name named solid unbroken alone
    have member : name ∈ table.keyNames action := by
      rw [Table.keyNames, keyboard]
      exact List.mem_filterMap.mpr ⟨code, bound, named⟩
    -- A blank name belongs to the extended code of a blank, which is shut out.
    have isName : IsKeyName name := by
      refine (Keyboard.isShownName named).resolve_right ?_
      rintro ⟨point, isBlank, single⟩
      obtain ⟨c, rfl, rfl⟩ := Text.exists_singleton_of_points single
      exact solid c isBlank (Keyboard.eq_of_blank isBlank named)
    have noFeed : "\n" ∉ table.keyNames action := by
      intro feed
      obtain ⟨other, held, named'⟩ := named_of_mem_keyNames keyboard feed
      exact unbroken (Keyboard.eq_of_blank (c := '\n') (by decide) named' ▸ held)
    refine reload_named keyboard configured isName member noFeed fun other differ shown => ?_
    obtain ⟨rival, held, named'⟩ := named_of_mem_keyNames keyboard shown
    exact alone other differ rival held named'
  · intro unnamed
    -- Without a name nothing of the action is written, so the load finds no line for it.
    have none : table.keyNames action = [] := by
      rw [Table.keyNames, keyboard]
      exact List.filterMap_eq_nil_iff.mpr unnamed
    have empty := reload_unnamed keyboard configured none
    rw [Table.state, Table.codes, empty]
    exact ⟨rfl, rfl⟩

/-- A pseudo-key without a name beside `q`, and another one alone: the first action keeps its `q`, the
second has nothing to write. -/
theorem configured_reload_partly :
    let table := (Table.fresh usual).editAll [.assign 113 .quit, .assign 500 .quit, .assign 501 .help]
    table.keyboard = usual ∧ table.state .quit = .configured ∧ table.state .help = .configured ∧
      table.reload.state .quit = .configured ∧ usual.codeOf "q" ∈ table.reload.codes .quit ∧
      table.reload.state .help = .missing := by
  intro table
  have quit : table.codes .quit = [113, 500] := rfl
  have help : table.codes .help = [501] := rfl
  have others : ∀ action, action ≠ .quit → ∀ code ∈ table.codes action, usual.nameOf? code = none := by
    intro action differ code bound
    by_cases here : action = .help
    · subst here
      obtain rfl := List.mem_singleton.mp (help ▸ bound)
      decide
    · have empty : table.codes action = [] := by cases action <;> first | rfl | contradiction
      rw [empty] at bound
      cases bound
  have kept := (configured_reload table rfl .quit rfl).1 113 (by simp [quit]) "q" (by decide)
    (fun c _ same => by simp only [Limits.extendedCode, usual] at same; omega)
    (by rw [quit]; decide)
    (fun other differ rival bound named => by
      rw [others other differ rival bound] at named
      cases named)
  have lost := (configured_reload table rfl .help rfl).2 (others .help (by decide))
  exact ⟨rfl, rfl, rfl, kept.1, kept.2, lost.1⟩

/-- One pseudo-key without a name is enough to configure an action, and not enough to write it. -/
theorem reload_of_unnamed_key :
    let table := (Table.fresh usual).editAll [.assign 500 .quit]
    table.IsReachable ∧ table.state .quit = .configured ∧ table.reload.state .quit = .missing := by
  intro table
  have unnamed : table.keyNames .quit = [] := by decide
  refine ⟨⟨_, rfl⟩, rfl, ?_⟩
  rw [Table.state, @reload_unnamed table .quit rfl rfl unnamed]

end KeysFile

end KeyBindings
