import KeyBindings.Files.Tree
import KeyBindings.Proofs.Text.Fields
import Mathlib.Algebra.GroupWithZero.Nat
import Mathlib.Data.List.Infix

/-!
# The texts of paths

A text is taken as a path when it has no null character and is not too long. The characters of a
path are those of its names, besides slashes and a dot, and a path that is taken has only taken
ones above it.
-/
namespace KeyBindings

namespace Path

variable {folder path : Path} {name : String}

end Path

namespace Tree

variable {folder : Path} {name text : String}

theorem refusal?_kind {kind : FaultKind} (refused : refusal? text = some kind) :
    kind = .nullCharacter ∧ '\x00' ∈ text.toList ∨ kind = .nameTooLong := by
  unfold refusal? at refused
  split at refused
  next null => exact .inl ⟨(Option.some.inj refused).symm, by simpa using null⟩
  · split at refused
    · exact .inr (Option.some.inj refused).symm
    · cases refused

end Tree

end KeyBindings
