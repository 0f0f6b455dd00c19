import KeyBindings.Text.Quoted

/-!
# Faults of file operations

An operation on files that fails says why, and on which path or pair of paths.
-/
namespace KeyBindings

/-- Why a system refuses what the files themselves would allow. -/
inductive Trouble where
  | broken
  | denied
  | full
  | readOnly
  deriving DecidableEq, Repr

namespace Trouble

def number : Trouble → Nat
  | .broken => 5
  | .denied => 13
  | .full => 28
  | .readOnly => 30

def text : Trouble → String
  | .broken => "Input/output error"
  | .denied => "Permission denied"
  | .full => "No space left on device"
  | .readOnly => "Read-only file system"

end Trouble

inductive FaultKind where
  | noSuchFile
  | busy
  | alreadyThere
  | notFolder
  | isFolder
  | nameTooLong
  | refused (trouble : Trouble)
  /-- No temporary file can be made in any of these folders. -/
  | noTemporaryFolder (tried : List String)
  /-- The path holds a null character and is not taken at all. -/
  | nullCharacter
  /-- Too many folders above the path are missing. -/
  | tooDeep
  /-- Too many folders above a path that is taken as it is written are missing. -/
  | tooDeepAsWritten
  deriving DecidableEq, Repr

namespace FaultKind

/-- Did the file system refuse, and not what stands before it? -/
def isSystem : FaultKind → Bool
  | .nullCharacter => false
  | .tooDeep => false
  | .tooDeepAsWritten => false
  | _ => true

def number : FaultKind → Nat
  | .noSuchFile => 2
  | .busy => 16
  | .alreadyThere => 17
  | .notFolder => 20
  | .isFolder => 21
  | .nameTooLong => 36
  | .refused trouble => trouble.number
  | .noTemporaryFolder _ => 2
  | .nullCharacter => 0
  | .tooDeep => 0
  | .tooDeepAsWritten => 0

def text : FaultKind → String
  | .noSuchFile => "No such file or directory"
  | .busy => "Device or resource busy"
  | .alreadyThere => "File exists"
  | .notFolder => "Not a directory"
  | .isFolder => "Is a directory"
  | .nameTooLong => "File name too long"
  | .refused trouble => trouble.text
  | .noTemporaryFolder tried =>
    "No usable temporary directory found in [" ++ ", ".intercalate (tried.map Text.quoted) ++ "]"
  | .nullCharacter => "embedded null byte"
  | .tooDeep => "maximum recursion depth exceeded while calling a Python object"
  | .tooDeepAsWritten => "maximum recursion depth exceeded"

end FaultKind

/-- A failed operation. `path` is empty when none was given, and `target` is the second path of a
renaming. -/
structure FileFault where
  kind : FaultKind
  path : String
  target : Option String := none
  deriving DecidableEq, Repr

namespace FileFault

def isSystem (fault : FileFault) : Bool := fault.kind.isSystem

def message (fault : FileFault) : String :=
  if fault.isSystem then
    let place := if fault.path = "" then "" else ": " ++ Text.quoted fault.path
    let target := match fault.target with
      | some target => " -> " ++ Text.quoted target
      | none => ""
    s!"[Errno {fault.kind.number}] {fault.kind.text}{place}{target}"
  else fault.kind.text

end FileFault

end KeyBindings
