import KeyBindings.Text.Pieces

/-!
# Paths

A path is a list of names from a start: the working folder, or the root. Empty names and
single dots say nothing and are dropped; two dots are kept, because what they mean depends
on the files. Two slashes at the start are told apart from one, and three or more are one.
-/
namespace KeyBindings

/-- Where a path starts. -/
inductive Anchor where
  | here
  | root
  | doubleRoot
  deriving DecidableEq, Repr

def Anchor.text : Anchor → String
  | .here => ""
  | .root => "/"
  | .doubleRoot => "//"

structure Path where
  anchor : Anchor
  names : List String
  deriving DecidableEq, Repr

namespace Path

/-- The start of a path, by the number of slashes before its first name. -/
def anchorOf (slashes : Nat) : Anchor :=
  match slashes with
  | 0 => .here
  | 2 => .doubleRoot
  | _ => .root

/-- The names between the slashes of a text, single dots among them. -/
def namesOf (text : List Char) : List (List Char) :=
  (Text.pieces ['/'] text).filter fun name => name ≠ []

def ofText (text : String) : Path :=
  let slashes := (text.toList.takeWhile (· = '/')).length
  let names := (namesOf text.toList).filter fun name => name ≠ ['.']
  ⟨anchorOf slashes, names.map String.ofList⟩

/-- A path as it is written. The path that names nothing is a dot. -/
def text (path : Path) : String :=
  if path.anchor = .here && path.names.isEmpty then "."
  else path.anchor.text ++ "/".intercalate path.names

def isAbsolute (path : Path) : Bool := path.anchor ≠ .here

/-- A path seen from another; an absolute path stands for itself. -/
def join (base path : Path) : Path :=
  if path.isAbsolute then path else { base with names := base.names ++ path.names }

/-- A name inside a folder. -/
def child (folder : Path) (name : String) : Path := { folder with names := folder.names ++ [name] }

def parent (path : Path) : Path := { path with names := path.names.dropLast }

/-- The last name, empty when there is none. -/
def name (path : Path) : String := path.names.getLast?.getD ""

/-- The path of an absolute path with double dots carried out name by name. -/
def normalNames (names : List String) : List String :=
  names.foldl (fun done name => if name = ".." then done.dropLast else done ++ [name]) []

/-- The absolute path without double dots, seen from an absolute folder. -/
def absolute (path folder : Path) : Path :=
  let whole := folder.join path
  { whole with names := normalNames whole.names }

end Path

end KeyBindings
