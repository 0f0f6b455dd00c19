import KeyBindings.Proofs.KeysFile.Spelled
import KeyBindings.Proofs.Startup

/-!
# The next start

A binder that had to add default keys writes its keys file again, and the next start reads that
file. It finds what this one had, unless a key is bound whose name stands for another key.
-/
namespace KeyBindings

/-! ### Loading twice -/

namespace Binder

variable {binder : Binder} {host : Host} {path : Path} {content : Text.Utf8.Octets}
  {report : KeysFile.Report}

/-- A load under the usual names that had to complete the file: what it left in the table, and what
it has written. -/
structure Repaired (binder : Binder) (host after : Host) (path : Path) (table : Table) : Prop where
  keyboard : binder.table.keyboard = .usual
  spelled : table.Spelled .usual
  present : ∀ action, table.isMissing action = false
  written : host.writeWhole path (KeysFile.render table) = ⟨after, none, .ok ()⟩

namespace Repaired

variable {after : Host} {table : Table}

theorem keyboard_table (repaired : Repaired binder host after path table) :
    table.keyboard = binder.table.keyboard :=
  repaired.spelled.keyboard_eq.trans repaired.keyboard.symm

theorem read (repaired : Repaired binder host after path table) :
    after.tree.read after.here path = .ok (Text.Utf8.encode (KeysFile.render table)) := by
  obtain ⟨here, read⟩ := Host.read_writeWhole repaired.written
  rw [here]
  exact read

/-- The next load reads the lines that were written for the table of this one. -/
theorem lines (repaired : Repaired binder host after path table) :
    KeysFile.load (Table.fresh binder.table.keyboard)
        (KeysFile.fileLines (Text.Utf8.encode (KeysFile.render table))) =
      KeysFile.loadText (Table.fresh .usual) (KeysFile.render table) := by
  have named : ∀ action ∈ KeysFile.writtenActions table, KeysFile.Named table action :=
    fun action _ => repaired.spelled.named action
  rw [repaired.keyboard, KeysFile.fileLines_encode _ (KeysFile.render_plain table named)]
  rfl

/-- A shadowed key is lost or the next load fails. -/
theorem not_kept (repaired : Repaired binder host after path table) {action : Action} {code : Int}
    (bound : code ∈ table.codes action) (shadowed : Keyboard.IsShadowed code) :
    ¬ ((∃ again, (binder.load after path).result = .ok again ∧ again.filled = 0) ∧
      ∀ action, (binder.load after path).binder.table.binding action = table.binding action) := by
  rintro ⟨⟨again, loaded, unfilled⟩, same⟩
  -- A load that fills nothing in has only what the file says, and the file cannot say a shadowed key.
  rcases load_readable repaired.read loaded with ⟨-, -, -, binder_eq⟩ | ⟨-, filled, -⟩
  · rw [binder_eq, repaired.lines] at same
    have codes : (KeysFile.loadText (Table.fresh .usual) (KeysFile.render table)).table.codes action =
        table.codes action := congrArg Binding.codes (same action)
    refine repaired.spelled.not_shadowed_of_load action code ?_ shadowed
    rw [codes]
    exact bound
  · omega

/-- Without a shadowed key the next load restores the table. -/
theorem kept (repaired : Repaired binder host after path table)
    (clear : ∀ action, ∀ code ∈ table.codes action, ¬ Keyboard.IsShadowed code) :
    (∃ again, (binder.load after path).result = .ok again ∧ again.filled = 0) ∧
      ∀ action, (binder.load after path).binder.table.binding action = table.binding action := by
  have positive : 1 ≤ table.limits.keyMin := by
    rw [Table.limits, repaired.spelled.keyboard_eq]
    decide
  -- Every name stands for its key now, so the written file restores the table as it was.
  have restored := KeysFile.Restored.whole positive repaired.spelled.consistent
    (repaired.spelled.wellNamed clear) repaired.spelled.keyNames_ne_mark
  rw [repaired.spelled.keyboard_eq, ← repaired.lines] at restored
  have binding : ∀ action, (KeysFile.load (Table.fresh binder.table.keyboard) (KeysFile.fileLines
      (Text.Utf8.encode (KeysFile.render table)))).table.binding action = table.binding action := by
    intro action
    rw [restored.binding, if_neg List.not_mem_nil]
  have present : ∀ action, (KeysFile.load (Table.fresh binder.table.keyboard) (KeysFile.fileLines
      (Text.Utf8.encode (KeysFile.render table)))).table.isMissing action = false := by
    intro action
    rw [Table.isMissing, Table.state, binding action]
    exact repaired.present action
  obtain ⟨loaded, -, binder_eq⟩ := load_present repaired.read present
  refine ⟨⟨_, loaded, (KeysFile.load_report _ _).1⟩, fun action => ?_⟩
  rw [binder_eq]
  exact binding action

end Repaired

/-- A load of a file that can be read, under the usual names. -/
theorem load_usual (keyboard : binder.table.keyboard = .usual)
    (readable : host.tree.read host.here path = .ok content)
    (loaded : (binder.load host path).result = .ok report) :
    (report.filled = 0 ∧ (binder.load host path).binder.load (binder.load host path).host path =
      binder.load host path) ∨
    ∃ table, 0 < report.filled ∧ (binder.load host path).binder = { binder with table } ∧
      Repaired binder host (binder.load host path).host path table := by
  -- What the file has bound was bound by names, and the default keys are names as well.
  have start : (KeysFile.load (Table.fresh binder.table.keyboard)
      (KeysFile.fileLines content)).table.Spelled .usual := by
    rw [keyboard]
    exact (Table.Spelled.fresh .usual).load (by decide) _
  rcases load_readable readable loaded with
    ⟨unfilled, -, host_eq, binder_eq⟩ | ⟨table, filled, fill, binder_eq, written⟩
  · refine .inl ⟨unfilled, ?_⟩
    rw [binder_eq, host_eq]
    exact load_withTable _ (start.keyboard_eq.trans keyboard.symm)
  · refine .inr ⟨table, filled, binder_eq, keyboard, ?_, (Table.fillMissing_ok fill).1, written⟩
    have spelled := start.fillMissing (by decide)
    rwa [fill] at spelled

/-- The next load finds what a load left, with nothing to fill in, exactly when the file did not
have to be completed or no bound key is the extended key of a character that has an ordinary one. -/
theorem load_twice_iff (usual : Keyboard.make {} Terminal.usual = .ok binder.table.keyboard)
    (readable : host.tree.read host.here path = .ok content)
    (loaded : (binder.load host path).result = .ok report) :
    let first := binder.load host path
    let second := first.binder.load first.host path
    ((∃ again, second.result = .ok again ∧ again.filled = 0) ∧
      ∀ action, second.binder.table.binding action = first.binder.table.binding action) ↔
    report.filled = 0 ∨ ∀ action c, '!' ≤ c → c ≤ '~' →
      binder.limits.extendedCode c ∉ first.binder.table.codes action := by
  intro first second
  have keyboard : binder.table.keyboard = .usual := Keyboard.eq_of_make usual
  -- A load that filled nothing leaves the host as it was; another writes its repair.
  rcases load_usual keyboard readable loaded with ⟨unfilled, again⟩ | ⟨table, filled, binder_eq, repaired⟩
  · have same : second = first := again
    rw [same]
    exact ⟨fun _ => .inl unfilled, fun _ => ⟨⟨report, loaded, unfilled⟩, fun _ => rfl⟩⟩
  · have again : second = binder.load first.host path := by
      simp only [second, first, binder_eq]
      exact load_withTable table repaired.keyboard_table
    have extended : ∀ c, binder.limits.extendedCode c = Keyboard.usual.limits.extendedCode c := by
      intro c
      rw [limits, Table.limits, keyboard]
    rw [again]
    simp only [first, binder_eq, extended]
    -- The second load reads the repair, which keeps exactly the tables without shadowed codes.
    constructor
    · intro kept
      right
      intro action c low high bound
      exact repaired.not_kept bound ⟨c, ⟨low, high⟩, rfl⟩ kept
    · rintro (unfilled | clear)
      · omega
      · apply repaired.kept
        rintro action _ bound ⟨c, graphic, rfl⟩
        exact clear action c graphic.1 graphic.2 bound

/-! ### A file with one key -/

section

variable {name : String} {code : Int}

/-- What is shown of the file with one key, for any name of the key. -/
theorem load_oneKeyHost_twice (isName : IsKeyName name) (unlike : name ≠ Table.undefinedMark)
    (stands : Keyboard.usual.codeOf name = code) (valid : Keyboard.usual.limits.isValid code = true)
    (free : code ≠ 27) (shadowed : Keyboard.IsShadowed code) :
    let first := freshBinder.load (oneKeyHost name) freshBinder.keysFile
    let second := first.binder.load first.host freshBinder.keysFile
    ¬ ((∃ again, second.result = .ok again ∧ again.filled = 0) ∧
      ∀ action, second.binder.table.binding action = first.binder.table.binding action) := by
  obtain ⟨⟨report, loaded, filled⟩, binding⟩ := load_oneKeyHost isName unlike stands valid free
  rcases load_usual rfl (read_oneKeyHost name) loaded with
    ⟨unfilled, -⟩ | ⟨table, -, binder_eq, repaired⟩
  · omega
  -- The repaired table still binds the shadowed code to its action.
  · have bound : code ∈ table.codes .quit := by
      have lists := binding .quit
      rw [binder_eq] at lists
      rw [Table.codes, lists]
      exact List.mem_singleton_self _
    intro first second
    have again : second = freshBinder.load first.host freshBinder.keysFile := by
      simp only [second, first, binder_eq]
      exact load_withTable table repaired.keyboard_table
    rw [again]
    simp only [first, binder_eq]
    exact repaired.not_kept bound shadowed

end

/-- A key by a name that no key has is another key at the next start. -/
theorem load_twice_senseless :
    let first := freshBinder.load (oneKeyHost "foo") freshBinder.keysFile
    let second := first.binder.load first.host freshBinder.keysFile
    Keyboard.make {} Terminal.usual = .ok freshBinder.table.keyboard ∧
    (∃ content, (oneKeyHost "foo").tree.read (oneKeyHost "foo").here freshBinder.keysFile = .ok content) ∧
    (∃ report, first.result = .ok report) ∧
    ¬ ((∃ again, second.result = .ok again ∧ again.filled = 0) ∧
      ∀ action, second.binder.table.binding action = first.binder.table.binding action) := by
  have stands : Keyboard.usual.codeOf "foo" = Keyboard.usual.limits.extendedCode 'f' :=
    Keyboard.codeOf_senseless (by decide) rfl rfl (by decide +kernel)
  obtain ⟨⟨report, loaded, -⟩, -⟩ :=
    @load_oneKeyHost "foo" _ (by decide) (by decide) stands (by decide) (by decide)
  refine ⟨Keyboard.make_usual, ⟨_, read_oneKeyHost "foo"⟩, ⟨report, loaded⟩, ?_⟩
  exact @load_oneKeyHost_twice "foo" _ (by decide) (by decide) stands (by decide) (by decide)
    ⟨'f', ⟨by decide, by decide⟩, rfl⟩

/-- A key by its own name is the same key at the next start. -/
theorem load_twice_iff_named :
    let first := freshBinder.load (oneKeyHost "q") freshBinder.keysFile
    let second := first.binder.load first.host freshBinder.keysFile
    (∃ report, first.result = .ok report ∧ report.filled = 1) ∧
      (∃ again, second.result = .ok again ∧ again.filled = 0) ∧
      ∀ action, second.binder.table.binding action = first.binder.table.binding action := by
  have stands : Keyboard.usual.codeOf "q" = 113 :=
    Keyboard.codeOf_graphic (c := 'q') ⟨by decide, by decide⟩
  obtain ⟨⟨report, loaded, filled⟩, binding⟩ :=
    @load_oneKeyHost "q" _ (by decide) (by decide) stands (by decide) (by decide)
  have twice := load_twice_iff Keyboard.make_usual (read_oneKeyHost "q") loaded
  refine ⟨⟨report, loaded, filled⟩, twice.mpr (.inr fun action c low high bound => ?_)⟩
  have value : freshBinder.limits.extendedCode c = c.toNat + 511 := rfl
  rw [Table.codes, binding, value] at bound
  split at bound
  · simp only [List.mem_singleton] at bound
    omega
  · split at bound
    · simp only [List.mem_singleton] at bound
      omega
    · cases bound

end Binder

end KeyBindings
