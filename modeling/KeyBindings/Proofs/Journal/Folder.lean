import KeyBindings.Journal.Folder
import KeyBindings.Proofs.Files.Folders
import Mathlib.Data.List.TakeWhile

/-!
# Making the folder of the journal

The folder is made below the folders above it, each of which has fewer slashes in its name. So a name
without null characters and with few slashes fails for reasons of the file system only.
-/
namespace KeyBindings.Journal

variable {host : Host} {text : String} {fault : FileFault} {kind : FaultKind}

/-! ### The folder above -/

/-- The text of the folder above, and the last name. A slash at the end of a text is not one before
its last name. -/
def above (text : String) : String × String :=
  match splitLast text with
  | (above, "") => splitLast above
  | parts => parts

theorem follow_kind {more : List String} (plain : '\x00' ∉ text.toList)
    (failed : follow host text more = .error kind) : kind.isSystem = true := by
  unfold follow at failed
  split at failed
  next refused =>
    cases failed
    rcases Tree.refusal?_kind refused with ⟨-, null⟩ | rfl
    · exact absurd null plain
    · rfl
  next => exact Tree.follow_kind failed

end KeyBindings.Journal
