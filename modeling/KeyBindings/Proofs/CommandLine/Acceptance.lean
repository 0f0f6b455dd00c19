import KeyBindings.Proofs.CommandLine.Check
import KeyBindings.Proofs.Startup

/-!
# What a check accepts

A check of a keys file and the start of a binder read the same lines. The check accepts exactly the
files that a start takes as they are: nothing on them is refused and no action is missing.
-/
namespace KeyBindings.CommandLine

variable {work : Work} {path : Path} {content : Text.Utf8.Octets}

theorem checkFile_status (keyboard : Keyboard)
    (readable : work.host.tree.read work.host.here path = .ok content) :
    (checkFile work keyboard path).2 = .status 0 ↔
      (KeysFile.check keyboard (KeysFile.fileLines content)).passes = true := by
  simp only [checkFile, readable, Exit.status.injEq]
  by_cases passed : (KeysFile.check keyboard (KeysFile.fileLines content)).passes = true <;> simp [passed]

/-- The check of a file that can be read ends with status 0 exactly when a binder with the same
keyboard loads the same lines without a problem and with nothing to fill in. Then the load leaves the
files as they are, and it ends with the table and the report of the check. -/
theorem checkFile_accepts_iff (work : Work) (file : Path) (binder : Binder) (host : Host) (path : Path)
    (content : Text.Utf8.Octets)
    (checkable : work.host.tree.read work.host.here file = .ok content)
    (loadable : host.tree.read host.here path = .ok content) :
    let keyboard := binder.table.keyboard
    let checked := KeysFile.load (Table.fresh keyboard) (KeysFile.fileLines content)
    let loaded := binder.load host path
    ((checkFile work keyboard file).2 = .status 0 ↔
      ∃ report, loaded.result = .ok report ∧ report.ok = true ∧ report.filled = 0) ∧
    ((checkFile work keyboard file).2 = .status 0 → loaded.host = host ∧
      loaded.binder.table = checked.table ∧ loaded.result = .ok checked.report) := by
  intro keyboard checked loaded
  have status := (checkFile_status keyboard checkable).trans
    (KeysFile.check_passes_iff keyboard (KeysFile.fileLines content))
  have takes (present : ∀ action, checked.table.isMissing action = false) :
      loaded.result = .ok checked.report ∧ loaded.host = host ∧
        loaded.binder = { binder with table := checked.table } :=
    Binder.load_present loadable present
  rw [status]
  constructor
  · constructor
    · rintro ⟨clean, present⟩
      refine ⟨checked.report, (takes present).1, ?_, (KeysFile.load_report _ _).1⟩
      simpa [KeysFile.Report.ok] using clean
    · rintro ⟨report, ended, clean, unfilled⟩
      -- With nothing filled in, no action can have been missing from the lines.
      rcases Binder.load_readable loadable ended with ⟨-, none, -, -⟩ | ⟨-, filled, -⟩
      · have present := Table.missingActions_eq_nil.mp none
        obtain rfl := Except.ok.inj ((takes present).1.symm.trans ended)
        exact ⟨by simpa [KeysFile.Report.ok] using clean, present⟩
      · omega
  · rintro ⟨-, present⟩
    obtain ⟨result, host_eq, binder_eq⟩ := takes present
    exact ⟨host_eq, congrArg Binder.table binder_eq, result⟩

/-- Both take a file of default keys. -/
theorem checkFile_accepts_defaults :
    let host := Host.keeping (Text.Utf8.encode KeysFile.renderDefaults)
    let work : Work := ⟨{}, ⟨host, ""⟩, ""⟩
    let path := Binder.freshBinder.keysFile
    (∃ content, host.tree.read host.here path = .ok content) ∧
      (checkFile work Terminal.usual.keyboard path).2 = .status 0 ∧
      (∃ report, (Binder.freshBinder.load host path).result = .ok report ∧
        report.ok = true ∧ report.filled = 0) ∧
      (Binder.freshBinder.load host path).host = host := by
  intro host work path
  have readable := Host.read_keeping (Text.Utf8.encode KeysFile.renderDefaults)
  have sparse : Terminal.usual.IsSparse := fun code => ⟨by simp [Terminal.usual], .inl rfl⟩
  have tells : Terminal.usual.TellsDefaults := by decide +kernel
  have keyboard : Binder.freshBinder.table.keyboard = Terminal.usual.keyboard := rfl
  have passed : (checkFile work Terminal.usual.keyboard path).2 = .status 0 :=
    (@checkFile_of_read _ work path sparse readable).1 tells
  have both := checkFile_accepts_iff work path Binder.freshBinder host path _ readable readable
  rw [keyboard] at both
  obtain ⟨accepts, same⟩ := both
  exact ⟨⟨_, readable⟩, passed, accepts.mp passed, (same passed).1⟩

end KeyBindings.CommandLine
