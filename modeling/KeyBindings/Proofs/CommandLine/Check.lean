import KeyBindings.CommandLine.Program
import KeyBindings.Proofs.Files.Writing
import KeyBindings.Proofs.Key.SparseNames
import KeyBindings.Proofs.KeysFile.DefaultsFile

/-!
# Checking a file of default keys

The check of a keys file passes a file of default keys that was written a moment ago, unless the
terminal leaves default keys without a name that then share a key.
-/
namespace KeyBindings.CommandLine

variable {terminal : Terminal} {work : Work} {path : Path}

/-- Under a sparse terminal the default keys are loaded without a problem exactly when the terminal
tells them apart. -/
theorem load_defaults_iff (sparse : terminal.IsSparse) :
    ((KeysFile.loadText (Table.fresh terminal.keyboard) KeysFile.renderDefaults).report.problems = [] ↔
      terminal.TellsDefaults) ∧
    (terminal.TellsDefaults → ∀ action, (KeysFile.loadText (Table.fresh terminal.keyboard)
      KeysFile.renderDefaults).table.isMissing action = false) := by
  have positive : 1 ≤ terminal.keyboard.limits.keyMin := (by decide : (1 : Int) ≤ 257)
  obtain ⟨clean, present⟩ := KeysFile.load_defaults_clean terminal.keyboard positive
    fun name isDefault => sparse.make.2.isValid_codeOf (Keyboard.defaultKeys_filled name isDefault)
  rw [sparse.nodup_defaults_iff] at clean
  exact ⟨clean, fun tells => present (clean.mpr tells)⟩

theorem read_storeDefaults {host : Host}
    (stored : (KeysFile.storeDefaults host path).result = .ok ()) :
    (KeysFile.storeDefaults host path).host.tree.read (KeysFile.storeDefaults host path).host.here path =
      .ok (Text.Utf8.encode KeysFile.renderDefaults) := by
  rw [KeysFile.storeDefaults, KeysFile.store] at stored ⊢
  cases written : (host.writeWhole path KeysFile.renderDefaults).result with
  | error fault => simp [written] at stored
  | ok done =>
    obtain ⟨here, read⟩ := Host.read_writeWhole (Host.writeWhole_ok written)
    dsimp only
    rw [here, read]

theorem checkFile_of_read (sparse : terminal.IsSparse)
    (readable : work.host.tree.read work.host.here path =
      .ok (Text.Utf8.encode KeysFile.renderDefaults)) :
    (terminal.TellsDefaults → (checkFile work terminal.keyboard path).2 = .status 0) ∧
      (¬ terminal.TellsDefaults → (checkFile work terminal.keyboard path).2 = .status 1) := by
  have exit : (checkFile work terminal.keyboard path).2 = .status
      (if (KeysFile.check terminal.keyboard (KeysFile.textLines KeysFile.renderDefaults)).passes then 0
        else 1) := by
    simp only [checkFile, readable, KeysFile.fileLines_renderDefaults]
  obtain ⟨clean, present⟩ := load_defaults_iff sparse
  have passes := KeysFile.check_passes_iff terminal.keyboard (KeysFile.textLines KeysFile.renderDefaults)
  -- What the check asks for is that the load was clean, and that implies that nothing is missing.
  rw [← KeysFile.loadText, clean] at passes
  rw [exit]
  constructor
  · intro tells
    rw [if_pos (passes.mpr ⟨tells, present tells⟩)]
  · intro confused
    rw [if_neg fun passed => confused (passes.mp passed).1]

/-- A terminal that gives each code its usual name or none has a keyboard. Under it the default keys
are loaded without a problem exactly when at most one of the control characters among them has no name
and `K` or the back tab has one. Then no action is missing, and the check of a file of default keys
that was written a moment ago ends with status 0. Otherwise it ends with status 1. -/
theorem checkFile_defaults_iff (terminal : Terminal) (sparse : terminal.IsSparse) :
    ∃ keyboard, Keyboard.make {} terminal = .ok keyboard ∧
      ((KeysFile.loadText (Table.fresh keyboard) KeysFile.renderDefaults).report.problems = [] ↔
        terminal.TellsDefaults) ∧
      (terminal.TellsDefaults → ∀ action,
        (KeysFile.loadText (Table.fresh keyboard) KeysFile.renderDefaults).table.isMissing action =
          false) ∧
      ∀ (work : Work) (path : Path), (KeysFile.storeDefaults work.host path).result = .ok () →
        ((checkFile (work.withHost (KeysFile.storeDefaults work.host path).host) keyboard path).2 =
          .status (if terminal.TellsDefaults then 0 else 1)) := by
  obtain ⟨clean, present⟩ := load_defaults_iff sparse
  refine ⟨terminal.keyboard, sparse.make.1, clean, present, fun work path stored => ?_⟩
  -- The stored file is the one the check reads, so its verdict is that of the text.
  have readable := read_storeDefaults stored
  obtain ⟨passes, fails⟩ := @checkFile_of_read terminal
    (work.withHost (KeysFile.storeDefaults work.host path).host) path sparse readable
  split
  next tells => exact passes tells
  next confused => exact fails confused

/-! A host with one file, on which the default keys are stored. -/

theorem storeDefaults_keeping (content : Text.Utf8.Octets) :
    (KeysFile.storeDefaults (Host.keeping content) ⟨.root, ["keys"]⟩).result = .ok () := by
  rw [KeysFile.storeDefaults, KeysFile.store, Host.writeWhole_keeping]

/-- One control character without a name does no harm. -/
theorem checkFile_defaults_single :
    let terminal := Terminal.usual.answering [(19, .refused)]
    let work : Work := ⟨{}, ⟨Host.keeping [], ""⟩, ""⟩
    let stored := KeysFile.storeDefaults work.host ⟨.root, ["keys"]⟩
    terminal.IsSparse ∧ stored.result = .ok () ∧
      ∃ keyboard, Keyboard.make {} terminal = .ok keyboard ∧
        (KeysFile.loadText (Table.fresh keyboard) KeysFile.renderDefaults).report.problems = [] ∧
        (checkFile (work.withHost stored.host) keyboard ⟨.root, ["keys"]⟩).2 = .status 0 := by
  intro terminal work stored
  have sparse : terminal.IsSparse := by
    intro code
    by_cases silent : code = 19
    · subst silent
      exact ⟨by decide, .inr rfl⟩
    · have other : terminal code = .text (Terminal.usualName code) := by
        simp [terminal, Terminal.answering, Entries.lookup_cons, silent, Terminal.usual]
      rw [other]
      exact ⟨by simp, .inl rfl⟩
  have tells : terminal.TellsDefaults := by decide +kernel
  have done : stored.result = .ok () := storeDefaults_keeping []
  obtain ⟨keyboard, made, clean, -, checked⟩ := checkFile_defaults_iff terminal sparse
  refine ⟨sparse, done, keyboard, made, clean.mpr tells, ?_⟩
  have status := checked work ⟨.root, ["keys"]⟩ done
  rwa [if_pos tells] at status

/-- Before the screen is set up no key has a name, and the check does not pass. -/
theorem checkFile_defaults_closed :
    let work : Work := ⟨{}, ⟨Host.keeping [], ""⟩, ""⟩
    let stored := KeysFile.storeDefaults work.host ⟨.root, ["keys"]⟩
    Terminal.closed.IsSparse ∧ stored.result = .ok () ∧
      ∃ keyboard, Keyboard.make {} Terminal.closed = .ok keyboard ∧
        (KeysFile.loadText (Table.fresh keyboard) KeysFile.renderDefaults).report.problems ≠ [] ∧
        (checkFile (work.withHost stored.host) keyboard ⟨.root, ["keys"]⟩).2 = .status 1 := by
  intro work stored
  have sparse : Terminal.closed.IsSparse := fun code => ⟨by simp [Terminal.closed], .inr rfl⟩
  have confused : ¬ Terminal.closed.TellsDefaults := by decide
  have done : stored.result = .ok () := storeDefaults_keeping []
  have readable := read_storeDefaults done
  refine ⟨sparse, done, Terminal.closed.keyboard, sparse.make.1, ?_, ?_⟩
  · exact fun clean => confused ((load_defaults_iff sparse).1.mp clean)
  · exact (@checkFile_of_read _ (work.withHost stored.host) _ sparse readable).2 confused

end KeyBindings.CommandLine
