import KeyBindings.Command
import KeyBindings.Proofs.Key.Keystroke
import KeyBindings.Proofs.Key.SparseNames
import KeyBindings.Proofs.KeysFile.FilledDefaults
import KeyBindings.Proofs.KeysFile.Spelled

/-!
# Keys from the press to the action

Every key that can be pressed is shown by a name, and giving an action that name gives it the key.
So a table that starts from the default keys and is edited by shown names answers a press with the
action in whose list the key stands, also after it was written to a keys file and read back.
-/
namespace KeyBindings

open Keyboard (usual Shows IsShadowed IsScanned)

/-! ### Pressing a key shows its name -/

namespace Keystroke

/-- The name that a keyboard shows for what was decoded from the units of a keystroke. -/
def shown? (keyboard : Keyboard) (key : Keystroke) : Option String :=
  (decodeKey keyboard.limits key.units).1.bind keyboard.nameOf?

/-- Any character but the null can be typed, and any pseudo-key with a name pressed. The report of a
new window size is no press. -/
def IsPressable : Keystroke → Prop
  | .char c => c ≠ '\x00'
  | .pseudo value =>
    257 ≤ value ∧ value < 511 ∧ value ≠ KeyCode.resize ∧ (usual.nameOf? value).isSome

instance : DecidablePred IsPressable
  | .char c => inferInstanceAs (Decidable (c ≠ '\x00'))
  | .pseudo value => inferInstanceAs (Decidable
      (257 ≤ value ∧ value < 511 ∧ value ≠ KeyCode.resize ∧ (usual.nameOf? value).isSome))

theorem keyName_ascii : ∀ n : Nat, n < 128 → n ≠ 0 → usual.keyName n ≠ "" := by
  decide +kernel

variable {key : Keystroke}

theorem IsPressable.isKey (pressable : key.IsPressable) : IsKey {} key.units (key.code {}) := by
  apply Keystroke.isKey key (by decide)
  rintro value rfl
  exact pressable.1

theorem IsPressable.ne_resize (pressable : key.IsPressable) : key.code {} ≠ KeyCode.resize := by
  cases key with
  | pseudo value => exact pressable.2.2.1
  | char c =>
    have shift : ({} : Limits).extendedCode c = c.toNat + 511 := rfl
    rw [code, shift, KeyCode.resize]
    split <;> omega

/-- The code of a pressable key has a name, which is one field and stands for that code again. -/
theorem IsPressable.shows (pressable : key.IsPressable) :
    ∃ name, Shows (key.code {}) name ∧ usual.codeOf name = key.code {} := by
  cases key with
  | char c =>
    by_cases ascii : c.toNat < 128
    · -- Control characters have names of their own, so none of them is a blank on a line.
      have visible : c.toNat ≠ 0 := fun null => pressable (Char.toNat_inj.mp null)
      have scanned : IsScanned c.toNat := .inl ⟨by omega, by omega⟩
      have named := keyName_ascii c.toNat ascii visible
      rw [code, if_pos ascii]
      exact ⟨_, Keyboard.shows_scanned scanned named, Keyboard.codeOf_keyName scanned named⟩
    · have plain : ¬ Keyboard.IsGraphic c := fun graphic => by
        have bounds := (Keyboard.isGraphic_iff c).mp graphic
        omega
      rw [code, if_neg ascii]
      exact ⟨_, Keyboard.shows_extended (isAsciiBlank_of_lt c (by omega)),
        Keyboard.codeOf_extended plain⟩
  | pseudo value =>
    obtain ⟨low, high, -, isNamed⟩ := pressable
    obtain ⟨name, shown⟩ := Option.isSome_iff_exists.mp isNamed
    obtain ⟨n, rfl⟩ := Int.eq_ofNat_of_zero_le (show 0 ≤ value by omega)
    have scanned : IsScanned n := .inr ⟨by omega, by omega⟩
    have named : usual.keyName n ≠ "" := by
      intro empty
      rcases Keyboard.classify?_scanned scanned with range | range <;>
        simp [Keyboard.nameOf?, range, empty] at shown
    exact ⟨_, Keyboard.shows_scanned scanned named, Keyboard.codeOf_keyName scanned named⟩

theorem IsPressable.shown?_eq (pressable : key.IsPressable) :
    key.shown? usual = usual.nameOf? (key.code {}) := by
  have decoded := pressable.isKey.decoded []
  rw [List.append_nil] at decoded
  rw [shown?, show usual.limits = {} from rfl, decoded, Option.bind_some]

/-- The name that is shown for a pressable key can be written, stands for the key, and for no key
that shares its name with another. -/
theorem IsPressable.of_shown {name : String} (pressable : key.IsPressable)
    (shown : key.shown? usual = some name) :
    IsKeyName name ∧ usual.codeOf name = key.code {} ∧ ¬ IsShadowed (usual.codeOf name) := by
  rw [pressable.shown?_eq] at shown
  obtain ⟨other, shows, back⟩ := pressable.shows
  obtain rfl : other = name := Option.some.inj (shows.named.symm.trans shown)
  refine ⟨isKeyName_points.mpr ⟨fun empty => ?_, shows.solid⟩, back,
    Keyboard.not_isShadowed_codeOf shown⟩
  exact usual.nameOf?_ne_empty _ other shown (String.toList_eq_nil_iff.mp empty)

end Keystroke

/-! ### Tables that the keys file can hold -/

/-- A key of an action is changed by the name that is shown for it, or all of them are taken away. -/
inductive Edit.IsByName : Edit → Prop where
  | assign {key : Keystroke} {name : String} (action : Action) :
    key.IsPressable → key.shown? usual = some name → IsByName (.assign (usual.codeOf name) action)
  | remove {key : Keystroke} {name : String} (action : Action) :
    key.IsPressable → key.shown? usual = some name → IsByName (.remove (usual.codeOf name) action)
  | markUndefined (action : Action) : IsByName (.markUndefined action)

namespace Table

variable {table after : Table}

/-- The name of a default key stands for the key that has it. -/
theorem codeOf_defaultKey {action : Action} {name : String} (isDefault : name ∈ action.defaultKeys) :
    ∃ n ∈ Keyboard.defaultCodes, usual.codeOf name = (n : Nat) := by
  have listed : name ∈ Action.all.flatMap Action.defaultKeys :=
    List.mem_flatMap.mpr ⟨action, action.mem_all, isDefault⟩
  have filled := Keyboard.defaultKeys_filled name listed
  rw [Keyboard.defaultCodes_names] at listed
  obtain ⟨n, member, rfl⟩ := List.mem_map.mp listed
  exact ⟨n, member, Keyboard.codeOf_keyName (Keyboard.defaultCodes_scanned.2 n member) filled⟩

/-- Every bound key was given by a name, and none shares its name with another key. -/
structure Storable (table : Table) : Prop where
  spelled : Spelled usual table
  clear : ∀ action, ∀ code ∈ table.codes action, ¬ IsShadowed code

namespace Storable

theorem fresh : Storable (Table.fresh usual) :=
  ⟨.fresh usual, fun action code bound => by simp [codes] at bound⟩

theorem assign (storable : Storable table) {name : String} {action : Action} (isName : IsKeyName name)
    (plain : ¬ IsShadowed (usual.codeOf name))
    (assigned : table.assign (usual.codeOf name) action = .ok after) : Storable after := by
  have keyboard := storable.spelled.keyboard_eq
  have named : table.assign (table.keyboard.codeOfPoints name) action = .ok after := by
    rw [Keyboard.codeOfPoints_points, keyboard]
    exact assigned
  refine ⟨storable.spelled.assign (by decide) isName named, ?_⟩
  intro other code bound
  rcases mem_codes_of_assign assigned bound with old | ⟨-, rfl⟩
  · exact storable.clear other code old
  · exact plain

theorem fillMissing (storable : Storable table) : Storable table.fillMissing.1 := by
  refine fillMissing_keeps (fun before after action name held isDefault assigned => ?_) table storable
  -- Default keys are scanned keys, and only extended codes share their names with others.
  obtain ⟨n, member, same⟩ := codeOf_defaultKey isDefault
  have scanned := Keyboard.defaultCodes_scanned.2 n member
  rw [held.spelled.keyboard_eq] at assigned
  exact held.assign (action.isKeyName_of_mem_defaultKeys name isDefault)
    (same ▸ Keyboard.not_isShadowed_of_scanned scanned) assigned

theorem edit (storable : Storable table) {edit : Edit} (byName : edit.IsByName) :
    Storable (table.edit edit) := by
  cases byName with
  | @assign key name action pressable shown =>
    obtain ⟨isName, -, plain⟩ := pressable.of_shown shown
    simp only [Table.edit]
    cases assigned : table.assign (usual.codeOf name) action with
    | ok after => exact storable.assign isName plain assigned
    | error reason => exact storable
  | @remove key name action pressable shown =>
    refine ⟨storable.spelled.remove (by decide) _ action, fun other code held => ?_⟩
    exact storable.clear other code (mem_codes_of_remove held)
  | markUndefined action =>
    refine ⟨storable.spelled.markUndefined (by decide) action, fun other code held => ?_⟩
    exact storable.clear other code (mem_codes_of_markUndefined held)

theorem editAll (storable : Storable table) (edits : List Edit)
    (byName : ∀ edit ∈ edits, edit.IsByName) : Storable (table.editAll edits) := by
  induction edits generalizing table with
  | nil => exact storable
  | cons first rest ih =>
    have step := storable.edit (byName first List.mem_cons_self)
    exact ih step fun other member => byName other (List.mem_cons_of_mem _ member)

/-- A table of storable keys answers every code as before when its keys file is read back. -/
theorem lookup_reload (storable : Storable table) (code : Int) :
    (KeysFile.loadText (Table.fresh usual) (KeysFile.render table)).table.lookup code =
      table.lookup code := by
  have keyboard := storable.spelled.keyboard_eq
  have restored := KeysFile.Restored.whole (Keyboard.keyMin_pos keyboard) storable.spelled.consistent
    (storable.spelled.wellNamed storable.clear) storable.spelled.keyNames_ne_mark
  rw [keyboard] at restored
  exact restored.lookup storable.spelled.consistent code

end Storable

/-! ### The whole way -/

/-- Under the usual names no default key is refused. -/
theorem fillMissing_usual : ∃ filled, (Table.fresh usual).fillMissing.2 = .ok filled := by
  have sparse : Terminal.usual.IsSparse := fun code => ⟨by simp [Terminal.usual], .inl rfl⟩
  have distinct : ((Action.all.flatMap Action.defaultKeys).map usual.codeOf).Nodup :=
    sparse.nodup_defaults_iff.mpr (by decide)
  have valid : ∀ name ∈ Action.all.flatMap Action.defaultKeys,
      usual.limits.isValid (usual.codeOf name) = true := fun name member =>
    sparse.make.2.isValid_codeOf (Keyboard.defaultKeys_filled name member)
  have clean := (KeysFile.load_defaults_clean usual (by decide) valid).1.mpr distinct
  cases filling : (Table.fresh usual).fillMissing with
  | mk after result =>
    cases result with
    | ok filled => exact ⟨filled, rfl⟩
    | error fault =>
      -- What stops the walk would be a problem of the file of default keys as well.
      have missing : ∀ action ∈ Action.all, (Table.fresh usual).isMissing action = true := by
        intro action _
        simp [isMissing, state]
      obtain ⟨place, more, -, noted⟩ := @KeysFile.Loading.bindRequests_of_stopped
        ⟨Table.fresh usual, {}⟩ after Action.all 9 0 fault missing Action.all_nodup filling
      rw [KeysFile.loadText_renderDefaults, noted] at clean
      simp at clean

end Table

/-- Reading the units of a pressable key gives what the key is bound to. -/
theorem Command.read_pressed {key : Keystroke} (pressable : key.IsPressable)
    (lookup : Int → Option Action) (script : Script) :
    read {} lookup false (key.units ++ script) =
      ⟨some ⟨match lookup (key.code {}) with
        | some action => .action action
        | none => .unbound, 1, 0, key.code {}⟩, [key.code {}], script⟩ := by
  simp only [read, Bool.false_eq_true, if_false, readPlain, pressable.isKey.decoded, finish,
    Option.map_some, meaningOf, if_neg pressable.ne_resize, Option.toList_some]
  rfl

namespace Table

theorem codes_fillMissing_usual (action : Action) :
    ∀ code ∈ (Table.fresh usual).fillMissing.1.codes action,
      ∃ n ∈ Keyboard.defaultCodes, code = (n : Nat) := by
  let P (table : Table) : Prop := table.keyboard = usual ∧
    ∀ action, ∀ code ∈ table.codes action, ∃ n ∈ Keyboard.defaultCodes, code = (n : Nat)
  have run : P (Table.fresh usual).fillMissing.1 := by
    refine fillMissing_keeps (fun before after owner name held isDefault assigned => ?_) _
      ⟨rfl, fun action code bound => by simp [codes] at bound⟩
    refine ⟨(keyboard_assign assigned).trans held.1, fun other code bound => ?_⟩
    rcases mem_codes_of_assign assigned bound with old | ⟨-, rfl⟩
    · exact held.2 other code old
    · rw [held.1]
      exact codeOf_defaultKey isDefault
  exact run.2 action

theorem Storable.read_pressed {table : Table} (storable : Storable table) {key : Keystroke}
    (pressable : key.IsPressable) (script : Script) :
    ∃ meaning,
      Command.read {} table.lookup false (key.units ++ script) =
        ⟨some ⟨meaning, 1, 0, key.code {}⟩, [key.code {}], script⟩ ∧
      (∀ action, meaning = .action action ↔ key.code {} ∈ table.codes action) ∧
      (meaning = .unbound ↔ ∀ action, key.code {} ∉ table.codes action) ∧
      Command.read {} (KeysFile.loadText (Table.fresh usual) (KeysFile.render table)).table.lookup
          false (key.units ++ script) =
        Command.read {} table.lookup false (key.units ++ script) := by
  -- One key is one command; its meaning is what the table answers for the code.
  have consistent := storable.spelled.consistent
  refine ⟨_, Command.read_pressed pressable table.lookup script, fun action => ?_, ?_, ?_⟩
  · rw [← consistent.owner_iff]
    cases table.lookup (key.code {}) <;> simp
  · rw [← consistent.unowned_iff]
    cases table.lookup (key.code {}) <;> simp
  · rw [Command.read_pressed pressable, Command.read_pressed pressable, storable.lookup_reload]

/-- The default keys are all bound in a fresh table. After any edits by shown names, the units of a
pressable key, whatever is typed behind them, are read as its code with the action in whose list the
code stands, and as unbound when it stands in none. A fresh table that has read the keys file of the
edited one reads the key in the same way. -/
theorem read_editAll (edits : List Edit) (byName : ∀ edit ∈ edits, edit.IsByName)
    (key : Keystroke) (pressable : key.IsPressable) (script : Script) :
    let defaults := (Table.fresh usual).fillMissing
    let table := defaults.1.editAll edits
    let reloaded := (KeysFile.loadText (Table.fresh usual) (KeysFile.render table)).table
    (∃ filled, defaults.2 = .ok filled) ∧ ∃ meaning,
      Command.read {} table.lookup false (key.units ++ script) =
        ⟨some ⟨meaning, 1, 0, key.code {}⟩, [key.code {}], script⟩ ∧
      (∀ action, meaning = .action action ↔ key.code {} ∈ table.codes action) ∧
      (meaning = .unbound ↔ ∀ action, key.code {} ∉ table.codes action) ∧
      Command.read {} reloaded.lookup false (key.units ++ script) =
        Command.read {} table.lookup false (key.units ++ script) :=
  have storable := Storable.fresh.fillMissing.editAll edits byName
  ⟨fillMissing_usual, storable.read_pressed pressable script⟩

/-- A character of two octets is given to an action beside its default keys, and another action loses
all its keys. -/
theorem read_editAll_accented :
    let key : Keystroke := .char '\u00e9'
    let edits : List Edit := [.assign (usual.codeOf "\u00e9") .quit, .markUndefined .help]
    (∀ edit ∈ edits, edit.IsByName) ∧ key.IsPressable ∧
      Command.read {} ((Table.fresh usual).fillMissing.1.editAll edits).lookup false key.units =
        ⟨some ⟨.action .quit, 1, 0, 744⟩, [744], []⟩ := by
  intro key edits
  have pressable : key.IsPressable := by decide
  have shown : key.shown? usual = some "\u00e9" :=
    pressable.shown?_eq.trans (Keyboard.nameOf?_extended '\u00e9')
  have byName : ∀ edit ∈ edits, edit.IsByName := by
    intro edit member
    rcases List.mem_cons.mp member with rfl | later
    · exact .assign .quit pressable shown
    · exact List.mem_singleton.mp later ▸ .markUndefined .help
  have value : usual.codeOf "\u00e9" = 744 :=
    (pressable.of_shown shown).2.1.trans (by decide)
  have filled := Storable.fresh.fillMissing
  have read := read_editAll edits byName key pressable []
  have old := codes_fillMissing_usual
  generalize (Table.fresh usual).fillMissing = defaults at filled read old ⊢
  -- No default key has a code above the pseudo-keys, so the character is free.
  have free : defaults.1.lookup (usual.codeOf "\u00e9") = none := by
    rw [filled.spelled.consistent.unowned_iff, value]
    intro action bound
    obtain ⟨n, member, same⟩ := old action _ bound
    have below := (Keyboard.defaultCodes_scanned.2 n member).dense
    omega
  have valid : defaults.1.limits.isValid (usual.codeOf "\u00e9") = true := by
    rw [limits, filled.spelled.keyboard_eq, value]
    rfl
  obtain ⟨after, assigned⟩ := assign_free free valid .quit
  have first : defaults.1.edit (.assign (usual.codeOf "\u00e9") .quit) = after := by
    rw [Table.edit, assigned]
    rfl
  have bound : 744 ∈ (defaults.1.editAll edits).codes .quit := by
    rw [editAll, List.foldl_cons, first, List.foldl_cons, List.foldl_nil, Table.edit,
      codes_markUndefined, if_neg (by decide), codes_assign assigned, if_pos rfl, value]
    exact List.mem_append_right _ List.mem_cons_self
  obtain ⟨-, meaning, read, isBound, -⟩ := read
  rw [List.append_nil, (isBound .quit).mpr bound] at read
  exact ⟨byName, pressable, read⟩

end Table

end KeyBindings
