import KeyBindings.Proofs.Key.NamedCodes
import KeyBindings.Proofs.Key.UsualNames
import KeyBindings.Proofs.KeysFile.Reload
import KeyBindings.Proofs.KeysFile.Storage

/-!
# Tables that names have filled

A keys file and the default keys bind keys by their names only. Under the usual names every key
that was bound so has a name of its own again, and a written keys file never gives back a key
whose name stands for another.
-/
namespace KeyBindings

namespace Table

variable {table after : Table}

/-- A consistent table of a keyboard in which every bound key was given by a name. -/
structure Spelled (keyboard : Keyboard) (table : Table) : Prop where
  keyboard_eq : table.keyboard = keyboard
  consistent : table.Consistent
  names : ∀ action, ∀ code ∈ table.codes action, ∃ name, IsKeyName name ∧ keyboard.codeOfPoints name = code

namespace Spelled

variable {keyboard : Keyboard} {action : Action} {name : Text.Points}

theorem fresh (keyboard : Keyboard) : Spelled keyboard (Table.fresh keyboard) :=
  ⟨rfl, .fresh keyboard, fun action code bound => by simp [codes] at bound⟩

theorem assign (positive : 1 ≤ keyboard.limits.keyMin) (spelled : Spelled keyboard table)
    (isName : IsKeyName name) (assigned : table.assign (table.keyboard.codeOfPoints name) action = .ok after) :
    Spelled keyboard after := by
  have positive' : 1 ≤ table.limits.keyMin := by
    rw [Table.limits, spelled.keyboard_eq]
    exact positive
  refine ⟨(keyboard_assign assigned).trans spelled.keyboard_eq,
    spelled.consistent.assign positive' assigned, fun other code bound => ?_⟩
  rcases mem_codes_of_assign assigned bound with old | ⟨-, rfl⟩
  · exact spelled.names other code old
  · exact ⟨name, isName, by rw [spelled.keyboard_eq]⟩

theorem markUndefined (positive : 1 ≤ keyboard.limits.keyMin) (spelled : Spelled keyboard table)
    (action : Action) : Spelled keyboard (table.markUndefined action) := by
  have positive' : 1 ≤ table.limits.keyMin := by
    rw [Table.limits, spelled.keyboard_eq]
    exact positive
  refine ⟨(keyboard_markUndefined table action).trans spelled.keyboard_eq,
    spelled.consistent.markUndefined positive' action, fun other code bound => ?_⟩
  exact spelled.names other code (mem_codes_of_markUndefined bound)

theorem remove (positive : 1 ≤ keyboard.limits.keyMin) (spelled : Spelled keyboard table)
    (code : Int) (action : Action) : Spelled keyboard (table.remove code action) := by
  have positive' : 1 ≤ table.limits.keyMin := by
    rw [Table.limits, spelled.keyboard_eq]
    exact positive
  refine ⟨(keyboard_remove table code action).trans spelled.keyboard_eq,
    spelled.consistent.remove positive' code action, fun other kept held => ?_⟩
  exact spelled.names other kept (mem_codes_of_remove held)

theorem load (positive : 1 ≤ keyboard.limits.keyMin) (spelled : Spelled keyboard table)
    (lines : List Text.Points) : Spelled keyboard (KeysFile.load table lines).table := by
  refine KeysFile.load_keeps (fun _ action held => held.markUndefined positive action) table lines
    ?_ spelled
  intro before after action name held named assigned
  obtain ⟨line, -, onLine⟩ := named
  exact held.assign positive (KeysFile.isKeyName_of_mem_namesOn line name onLine) assigned

theorem fillMissing (positive : 1 ≤ keyboard.limits.keyMin) (spelled : Spelled keyboard table) :
    Spelled keyboard table.fillMissing.1 :=
  fillMissing_keeps (fun before _ action name held default_ assigned => by
    rw [← before.keyboard.codeOfPoints_points] at assigned
    exact held.assign positive (action.isKeyName_of_mem_defaultKeys name default_) assigned) table spelled

end Spelled

/-! ### Under the usual names -/

section

variable (spelled : Spelled .usual table)
include spelled

theorem Spelled.shows {action : Action} {code : Int} (bound : code ∈ table.codes action) :
    ∃ shown, Keyboard.Shows code shown := by
  obtain ⟨given, isKeyName, rfl⟩ := spelled.names action code bound
  rcases Keyboard.usual.codeOfPoints_cases given with
    ⟨text, rfl⟩ | ⟨c, rest, rfl, same⟩ | ⟨half, rest, rfl, same⟩
  · obtain ⟨filled, solid⟩ := isKeyName_points.mp isKeyName
    rw [Keyboard.codeOfPoints_points]
    exact Keyboard.shows_codeOf (fun empty => filled (String.toList_eq_nil_iff.mpr empty)) solid
  · rw [same]
    exact ⟨_, Keyboard.shows_extended (isKeyName.2 (.scalar c) List.mem_cons_self)⟩
  · -- A bound code is a key code, and no key code belongs to a surrogate.
    have valid := spelled.consistent.valid bound
    rw [Table.limits, spelled.keyboard_eq, same, Limits.isValid_surrogate (by decide)] at valid
    cases valid

theorem Spelled.shows_of_mem_keyNames {action : Action} {name : String}
    (member : name ∈ table.keyNames action) :
    ∃ code ∈ table.codes action, Keyboard.Shows code name := by
  obtain ⟨code, bound, isName⟩ := List.mem_filterMap.mp member
  obtain ⟨shown, shows⟩ := spelled.shows bound
  rw [spelled.keyboard_eq, shows.named] at isName
  obtain rfl := Option.some.inj isName
  exact ⟨code, bound, shows⟩

theorem Spelled.named (action : Action) : KeysFile.Named table action := by
  intro name member
  obtain ⟨code, -, shows⟩ := spelled.shows_of_mem_keyNames member
  refine isKeyName_points.mpr ⟨fun empty => ?_, shows.solid⟩
  exact Keyboard.nameOf?_ne_empty .usual code name shows.named (String.toList_eq_nil_iff.mp empty)

theorem Spelled.keyNames_ne_mark (action : Action) : table.keyNames action ≠ [undefinedMark] := by
  intro marked
  have member : undefinedMark ∈ table.keyNames action := by simp [marked]
  obtain ⟨code, -, shows⟩ := spelled.shows_of_mem_keyNames member
  exact shows.unmarked rfl

theorem Spelled.wellNamed
    (clear : ∀ action, ∀ code ∈ table.codes action, ¬ Keyboard.IsShadowed code) : table.WellNamed := by
  intro action code bound
  obtain ⟨shown, shows⟩ := spelled.shows bound
  rw [spelled.keyboard_eq]
  exact ⟨shown, shows.named, shows.solid, shows.back.resolve_right (clear action code bound)⟩

/-- No key that a written keys file gives back is shadowed. -/
theorem Spelled.not_shadowed_of_load :
    ∀ action, ∀ code ∈ (KeysFile.loadText (Table.fresh .usual) (KeysFile.render table)).table.codes action,
      ¬ Keyboard.IsShadowed code := by
  have named : ∀ action ∈ KeysFile.writtenActions table, KeysFile.Named table action :=
    fun action _ => spelled.named action
  let P (other : Table) : Prop := other.keyboard = .usual ∧
    ∀ action, ∀ code ∈ other.codes action, ¬ Keyboard.IsShadowed code
  have start : P (Table.fresh .usual) := by
    refine ⟨rfl, fun action code bound => ?_⟩
    rw [codes, binding_fresh] at bound
    cases bound
  -- Every key that the file gives back comes from a name on one of its lines, and those lines hold
  -- names of keys only.
  have run : P (KeysFile.loadText (Table.fresh .usual) (KeysFile.render table)).table := by
    rw [KeysFile.loadText]
    refine KeysFile.load_keeps ?_ (Table.fresh .usual) _ ?_ start
    · intro other action held
      refine ⟨(keyboard_markUndefined other action).trans held.1, fun owner code bound => ?_⟩
      exact held.2 owner code (mem_codes_of_markUndefined bound)
    · intro before after action name held onLine assigned
      refine ⟨(keyboard_assign assigned).trans held.1, fun owner code bound => ?_⟩
      rcases mem_codes_of_assign assigned bound with old | ⟨-, rfl⟩
      · exact held.2 owner code old
      · obtain ⟨source, text, isName, rfl⟩ := KeysFile.nameOf?_of_mem_namesOn table named name onLine
        rw [held.1, Keyboard.codeOfPoints_points]
        exact Keyboard.not_isShadowed_codeOf (spelled.keyboard_eq ▸ isName)
  exact run.2

end

end Table

end KeyBindings
