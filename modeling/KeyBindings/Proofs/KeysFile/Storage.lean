import KeyBindings.KeysFile.Storage
import KeyBindings.Proofs.Binding.Defaults
import KeyBindings.Proofs.KeysFile.Demands
import KeyBindings.Proofs.KeysFile.Written
import KeyBindings.Proofs.Text.Utf8

/-!
# Keys files on disk

The lines of a stored keys file are those that were written. A load that ends well gave default
keys exactly when an action was missing.
-/
namespace KeyBindings.KeysFile

/-! ### Stored texts -/

theorem textLines_eq (text : String) : textLines text = (Text.lines text).map Text.points := by
  simp [textLines, linesOf, Text.lines, Text.points]

/-- A text without carriage returns has the lines in a file that it has in memory. -/
theorem fileLines_encode (text : String) (plain : '\r' ∉ text.toList) :
    fileLines (Text.Utf8.encode text) = textLines text := by
  rw [fileLines, Text.Utf8.decodeLossyChars_encode, Text.unifyLineEnds_eq _ plain, textLines]

theorem render_plain (table : Table) (named : ∀ action ∈ writtenActions table, Named table action) :
    '\r' ∉ (render table).toList := by
  refine plain_headed (render_toList table) fun line member => ?_
  obtain ⟨action, written, rfl⟩ := List.mem_map.mp member
  exact writtenLine_solid table action (named action written) '\r' (by decide) (by decide)

/-- The names that a written line binds are names of keys. -/
theorem nameOf?_of_mem_namesOn (table : Table)
    (named : ∀ action ∈ writtenActions table, Named table action) (name : Text.Points)
    (bound : ∃ line ∈ textLines (render table), name ∈ namesOn line) :
    ∃ code text, table.keyboard.nameOf? code = some text ∧ name = text := by
  obtain ⟨line, member, onLine⟩ := bound
  rw [lines_render table named, List.mem_append] at member
  rcases member with head | written
  · simp [namesOn, header_says_nothing line head] at onLine
  · obtain ⟨action, isWritten, rfl⟩ := List.mem_map.mp written
    have parsed := parseLine?_writtenLine table action (named action isWritten)
    -- The mark binds nothing; any other line has the names of its action's keys.
    by_cases unbound : table.isUndefined action = true
    · simp [namesOn, parsed, unbound] at onLine
    · rw [if_neg unbound] at parsed
      simp only [namesOn, parsed] at onLine
      split at onLine
      · cases onLine
      · obtain ⟨text, shown, rfl⟩ := List.mem_map.mp onLine
        obtain ⟨code, -, isName⟩ := List.mem_filterMap.mp shown
        exact ⟨code, text, isName, rfl⟩

/-! ### Reports -/

namespace Loading

/-- Either no action was missing and nothing happened, or the missing ones got default keys. -/
theorem complete_ok {loading : Loading} {records : List Journal.Record} {report : Report}
    (done : (loading.complete records).result = .ok report) :
    (loading.table.missingActions = [] ∧ (loading.complete records).table = loading.table ∧
      report = loading.report) ∨
    ∃ filled, loading.table.fillMissing = ((loading.complete records).table, .ok filled) ∧
      0 < filled ∧ report = { loading.report with filled } := by
  unfold complete at done ⊢
  split
  next none =>
    rw [if_pos none] at done
    exact .inl ⟨List.isEmpty_iff.mp none, rfl, (Except.ok.inj done).symm⟩
  next some =>
    rw [if_neg some] at done
    dsimp only at done ⊢
    -- A walk that stops leaves no report, so this one went through.
    cases fill : loading.table.fillMissing with
    | mk table result =>
      rw [fill] at done
      cases result with
      | error fault => cases done
      | ok filled =>
        have missing : loading.table.missingActions ≠ [] := fun empty =>
          some (List.isEmpty_iff.mpr empty)
        have some : 0 < filled := by
          rw [(Table.fillMissing_ok fill).2]
          exact List.length_pos_iff.mpr missing
        exact .inr ⟨filled, rfl, some, (Except.ok.inj done).symm⟩

theorem complete_of_present {loading : Loading} (records : List Journal.Record)
    (present : ∀ action, loading.table.isMissing action = false) :
    loading.complete records = ⟨loading.table, records, .ok loading.report⟩ := by
  have none : loading.table.missingActions = [] := Table.missingActions_eq_nil.mpr present
  simp [complete, none]

theorem complete_of_missing {loading : Loading} {after : Table} {filled : Nat}
    (records : List Journal.Record) (fill : loading.table.fillMissing = (after, .ok filled))
    (some : 0 < filled) :
    loading.complete records =
      ⟨after, records ++ fillRecords (.ok filled), .ok { loading.report with filled }⟩ := by
  have missing : ¬ loading.table.missingActions.isEmpty = true := by
    intro none
    -- With nobody missing the walk would have counted nobody.
    have present := Table.missingActions_eq_nil.mp (List.isEmpty_iff.mp none)
    have nobody := Table.fillActions_present loading.table Action.all 0 fun action _ => present action
    rw [Table.fillMissing, nobody] at fill
    obtain ⟨-, same⟩ := Prod.mk.inj fill
    have zero : 0 = filled := Except.ok.inj same
    omega
  simp only [complete, if_neg missing, fill]

end Loading

theorem check_passes_iff (keyboard : Keyboard) (lines : List Text.Points) :
    (check keyboard lines).passes = true ↔
      (load (Table.fresh keyboard) lines).report.problems = [] ∧
        ∀ action, (load (Table.fresh keyboard) lines).table.isMissing action = false := by
  simp [check, Check.passes, Report.ok, Table.missingActions, Action.mem_all]

theorem load_report (table : Table) (lines : List Text.Points) :
    (load table lines).report.filled = 0 ∧ (load table lines).report.fileRead = true :=
  readLines_report ⟨table, {}⟩ 1 lines

end KeyBindings.KeysFile
