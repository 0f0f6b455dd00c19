import KeyBindings.KeysFile.Storage
import KeyBindings.Proofs.Files.Writing

/-!
# Storing a keys file

A keys file is stored as a whole or not at all. Afterwards the target holds the text, or there is
the error for a file that cannot be stored and every file is as before. A temporary file that the system
does not let be taken away stays, and a warning names it. Where too many folders are missing a fault
comes through that is no such error.
-/
namespace KeyBindings.KeysFile

variable {host : Host} {path : Path} {text done : String} {failed : Path → FileFault → StoreError}

/-- The two ways in which storing a text may end. `refusal` makes the error for a file that cannot be
stored. -/
inductive StoredWhole (host : Host) (path : Path) (text : String) (refusal : FileFault → StoreError) :
    Outcome StoreError Unit → Prop
  | returned {tree : Tree} {records : List Journal.Record}
      (replaced : host.tree.Replaced host.here path (Text.Utf8.encode text) tree) :
      StoredWhole host path text refusal ⟨{ host with tree }, records, .ok ()⟩
  | raised {tree : Tree} {records : List Journal.Record} (fault : FileFault)
      (kept : host.tree.Kept host.here path.parent tree) :
      StoredWhole host path text refusal ⟨{ host with tree }, records, .error (refusal fault)⟩

/-- The error for a file that cannot be stored, a temporary file that stays, and a warning of it. -/
inductive LeftBehind (host : Host) (path : Path) (refusal : FileFault → StoreError) :
    Outcome StoreError Unit → Prop
  | raised {tree : Tree} (fault : FileFault)
      (kept : host.tree.KeptBut host.here path.parent (host.temporaryPath path) tree) :
      LeftBehind host path refusal
        ⟨{ host with tree }, [leftRecord (host.temporaryPath path)], .error (refusal fault)⟩

theorem StoredWhole.result {refusal : FileFault → StoreError} {outcome : Outcome StoreError Unit}
    (stored : StoredWhole host path text refusal outcome) :
    outcome.result = .ok () ∨ (∃ fault, outcome.result = .error (refusal fault)) ∧
      host.tree.Kept host.here path.parent outcome.host.tree := by
  cases stored with
  | returned => exact .inl rfl
  | raised fault kept => exact .inr ⟨⟨fault, rfl⟩, kept⟩

theorem LeftBehind.result {refusal : FileFault → StoreError} {outcome : Outcome StoreError Unit}
    (left : LeftBehind host path refusal outcome) :
    (∃ fault, outcome.result = .error (refusal fault)) ∧
      host.tree.KeptBut host.here path.parent (host.temporaryPath path) outcome.host.tree := by
  cases left with
  | raised fault kept => exact ⟨⟨fault, rfl⟩, kept⟩

/-- Where space runs out and nothing can be taken away, the beginning of the default keys stays in a
temporary file. -/
theorem storeDefaults_stuck :
    storeDefaults Host.stuck ⟨.root, ["keys"]⟩ =
      ⟨Host.stuckWith renderDefaults, [leftRecord ⟨.root, [".keys.00000000.tmp"]⟩],
        .error (.notCreated ⟨.root, ["keys"]⟩ ⟨.refused .full, "", none⟩)⟩ := by
  rw [storeDefaults, store, Host.writeWhole_stuck]
  rfl

end KeyBindings.KeysFile
