import KeyBindings.Files.Fault
import KeyBindings.Files.Path
import KeyBindings.Text.Utf8

/-!
# Trees of files

A folder is a list of names with what stands under them: files, and folders in turn. A place is
the list of names that lead to it from the root. Operations take a path, walk to its place
through folders that exist, and give the changed tree or the reason why they cannot. What the tree
would allow can still be refused by the system, because of permissions or for want of space.
-/
namespace KeyBindings

/-- What stands at a place. -/
inductive Entry where
  | file (content : Text.Utf8.Octets)
  | folder (inner : List (String × Entry))
  deriving Repr

abbrev Folder := List (String × Entry)

/-- The names that lead from the root to a place. -/
abbrev Place := List String

namespace Folder

/-- Put an entry under a name, where something stands already or at the end. -/
def set (name : String) (entry : Entry) : Folder → Folder
  | [] => [(name, entry)]
  | (other, old) :: rest =>
    if other = name then (name, entry) :: rest else (other, old) :: Folder.set name entry rest

/-- Put an entry at a place. The folders above it must be there. -/
def put (entry : Entry) : Place → Folder → Folder
  | [], folder => folder
  | [name], folder => folder.set name entry
  | name :: rest, folder =>
    match folder.lookup name with
    | some (.folder inner) => folder.set name (.folder (put entry rest inner))
    | _ => folder

/-- Take away what stands at a place. -/
def erase : Place → Folder → Folder
  | [], folder => folder
  | [name], folder => folder.filter fun entry => entry.1 ≠ name
  | name :: rest, folder =>
    match folder.lookup name with
    | some (.folder inner) => folder.set name (.folder (erase rest inner))
    | _ => folder

def find? (folder : Folder) : Place → Option Entry
  | [] => some (.folder folder)
  | name :: rest =>
    match folder.lookup name, rest with
    | some entry, [] => some entry
    | some (.folder inner), rest => Folder.find? inner rest
    | _, _ => none

end Folder

/-- Something that stands at a place: a file with its content, or a folder without. -/
structure Item where
  place : Place
  content : Option Text.Utf8.Octets
  deriving DecidableEq, Repr

mutual

/-- What stands at a place and below it. -/
def Entry.items (place : Place) : Entry → List Item
  | .file content => [⟨place, some content⟩]
  | .folder inner => ⟨place, none⟩ :: Folder.items place inner

/-- What stands in the folder at a place, and below. -/
def Folder.items (place : Place) : List (String × Entry) → List Item
  | [] => []
  | (name, entry) :: rest => entry.items (place ++ [name]) ++ Folder.items place rest

end

/-- What the system refuses at each place, though the tree would allow it. -/
structure Troubles where
  makeFolder : Place → Option Trouble := fun _ => none
  /-- Opening a file to write. -/
  openFile : Place → Option Trouble := fun _ => none
  /-- Writing into an open file. So many octets get there before. -/
  fill : Place → Option (Nat × Trouble) := fun _ => none
  /-- Moving a file from the first place to the second. -/
  rename : Place → Place → Option Trouble := fun _ _ => none
  unlink : Place → Option Trouble := fun _ => none

structure Tree where
  root : Folder := []
  troubles : Troubles := {}

namespace Tree

/-- What stands at a place. The root is always a folder. -/
def find? (tree : Tree) (place : Place) : Option Entry := Folder.find? tree.root place

def put (tree : Tree) (place : Place) (entry : Entry) : Tree :=
  { tree with root := Folder.put entry place tree.root }

def erase (tree : Tree) (place : Place) : Tree := { tree with root := Folder.erase place tree.root }

def items (tree : Tree) : List Item := Folder.items [] tree.root

/-- The longest name a place can have, in octets. -/
def nameLimit : Nat := 255

/-- A path must have fewer octets than this. -/
def pathLimit : Nat := 4096

def octetCount (text : String) : Nat := (Text.Utf8.encode text).length

/-- Why the text of a path is not taken, wherever it leads. -/
def refusal? (text : String) : Option FaultKind :=
  if text.toList.contains '\x00' then some .nullCharacter
  else if pathLimit ≤ octetCount text then some .nameTooLong
  else none

/-- A step of a walk: a name, and what stands under it. -/
abbrev WalkStep := String × Option Entry

/-- What stands where a walk has led. The last step was the first in the list. -/
def standing (tree : Tree) : List WalkStep → Option Entry
  | [] => some (.folder tree.root)
  | (_, entry) :: _ => entry

/-- Walk on along some names. Every step starts in a folder that exists; the last name may lead
to where nothing stands. -/
def walk (tree : Tree) (done : List WalkStep) : List String → Except FaultKind (List WalkStep)
  | [] => .ok done
  | name :: rest =>
    match tree.standing done with
    | none => .error .noSuchFile
    | some (.file _) => .error .notFolder
    | some (.folder inner) =>
      if nameLimit < octetCount name then .error .nameTooLong
      else if name = "." then tree.walk done rest
      else if name = ".." then tree.walk done.tail rest
      else tree.walk ((name, inner.lookup name) :: done) rest

/-- Where a path leads, and what stands there. -/
structure Spot where
  place : Place
  entry : Option Entry

/-- Follow names from the root, or from a working folder. -/
def follow (tree : Tree) (here : Place) (anchor : Anchor) (names : List String) :
    Except FaultKind Spot := do
  let start := if anchor = .here then here else []
  let steps ← tree.walk [] (start ++ names)
  return ⟨(steps.map (·.1)).reverse, tree.standing steps⟩

/-- Follow a path, seen from a working folder. -/
def locate (tree : Tree) (here : Place) (path : Path) : Except FaultKind Spot :=
  match refusal? path.text with
  | some kind => .error kind
  | none => tree.follow here path.anchor path.names

def entryAt (tree : Tree) (here : Place) (path : Path) : Except FaultKind Entry := do
  match (← tree.locate here path).entry with
  | some entry => .ok entry
  | none => .error .noSuchFile

/-- Is there something at the end of a path? A path that leads nowhere is no fault here, but
a name that no place can have is one. -/
def isThere (tree : Tree) (here : Place) (path : Path) : Except FaultKind Bool :=
  match tree.entryAt here path with
  | .ok _ => .ok true
  | .error .nameTooLong => .error .nameTooLong
  | .error _ => .ok false

def isFolder (tree : Tree) (here : Place) (path : Path) : Bool :=
  match tree.entryAt here path with
  | .ok (.folder _) => true
  | _ => false

def isFile (tree : Tree) (here : Place) (path : Path) : Except FaultKind Bool :=
  match tree.entryAt here path with
  | .ok (.file _) => .ok true
  | .ok (.folder _) => .ok false
  | .error .nameTooLong => .error .nameTooLong
  | .error _ => .ok false

def read (tree : Tree) (here : Place) (path : Path) : Except FaultKind Text.Utf8.Octets := do
  match ← tree.entryAt here path with
  | .file content => .ok content
  | .folder _ => .error .isFolder

/-- The outcome of an operation, unless the system has trouble with it. -/
def attempt {α : Type} (trouble : Option Trouble) (outcome : α) : Except FaultKind α :=
  match trouble with
  | some trouble => .error (.refused trouble)
  | none => .ok outcome

/-- Make an empty file that is not there yet, and open it. -/
def create (tree : Tree) (here : Place) (path : Path) : Except FaultKind (Place × Tree) := do
  let spot ← tree.locate here path
  match spot.entry with
  | some _ => .error .alreadyThere
  | none => attempt (tree.troubles.openFile spot.place) (spot.place, tree.put spot.place (.file []))

/-- Open a file at its end. It is made when it is not there. -/
def openEnd (tree : Tree) (here : Place) (path : Path) : Except FaultKind (Place × Tree) := do
  let spot ← tree.locate here path
  match spot.entry with
  | some (.folder _) => .error .isFolder
  | some (.file _) => attempt (tree.troubles.openFile spot.place) (spot.place, tree)
  | none => attempt (tree.troubles.openFile spot.place) (spot.place, tree.put spot.place (.file []))

/-- Write at the end of an open file. A failure may leave a part of the content there. -/
def fill (tree : Tree) (place : Place) (content : Text.Utf8.Octets) : Tree × Except FileFault Unit :=
  let held := match tree.find? place with
    | some (.file held) => held
    | _ => []
  match tree.troubles.fill place with
  | none => (tree.put place (.file (held ++ content)), .ok ())
  | some (count, trouble) =>
    (tree.put place (.file (held ++ content.take count)), .error ⟨.refused trouble, "", none⟩)

/-- Write a file, in place of one that is there. -/
def write (tree : Tree) (here : Place) (path : Path) (content : Text.Utf8.Octets) :
    Tree × Except FileFault Unit :=
  match tree.openEnd here path with
  | .error kind => (tree, .error ⟨kind, path.text, none⟩)
  | .ok (place, opened) => (opened.put place (.file [])).fill place content

/-- Take the file at the end of a path away. -/
def unlink (tree : Tree) (here : Place) (path : Path) : Except FaultKind Tree := do
  let spot ← tree.locate here path
  match spot.entry with
  | some (.folder _) => .error .isFolder
  | some (.file _) => attempt (tree.troubles.unlink spot.place) (tree.erase spot.place)
  | none => .error .noSuchFile

/-- Make one folder where nothing stands. -/
def makeFolderAt (tree : Tree) (spot : Spot) : Except FaultKind Tree :=
  match spot.entry with
  | some _ => .error .alreadyThere
  | none => attempt (tree.troubles.makeFolder spot.place) (tree.put spot.place (.folder []))

/-- Make one folder in a folder that is there. -/
def makeFolder (tree : Tree) (here : Place) (path : Path) : Except FaultKind Tree := do
  tree.makeFolderAt (← tree.locate here path)

/-- Does a path end in a place that cannot be replaced: the root, or a folder named by dots? -/
def endsInDots (path : Path) : Bool := path.names.isEmpty || path.name = ".."

/-- Move a file to a path, in place of a file that is there. -/
def rename (tree : Tree) (here : Place) (source target : Path) : Except FaultKind Tree := do
  let start ← tree.locate here source
  let goal ← tree.locate here target
  if endsInDots target then .error .busy
  else match start.entry, goal.entry with
    | some (.file _), some (.folder _) => .error .isFolder
    | some (.file content), _ =>
      attempt (tree.troubles.rename start.place goal.place)
        ((tree.erase start.place).put goal.place (.file content))
    | _, _ => .error .noSuchFile

/-- Make a folder where none is, and fewer than `limit` folders above it that are missing. The
names are given last first. A folder that is there already is no fault. -/
def makeFoldersAt (tree : Tree) (here : Place) (anchor : Anchor) :
    Nat → List String → Tree × Except FileFault Unit
  | _, [] => (tree, .ok ())
  | limit, last :: above =>
    let path : Path := ⟨anchor, (last :: above).reverse⟩
    -- An existing folder is no fault, whatever the system says of making it.
    let settle (tree : Tree) (kind : FaultKind) : Tree × Except FileFault Unit :=
      if kind.isSystem && tree.isFolder here path then (tree, .ok ())
      else (tree, .error ⟨kind, path.text, none⟩)
    if limit = 0 then (tree, .error ⟨.tooDeep, path.text, none⟩)
    else match tree.makeFolder here path with
    | .ok tree => (tree, .ok ())
    | .error .noSuchFile =>
      -- The folder above is missing, so it is made first, and then this one is tried again.
      match tree.makeFoldersAt here anchor (limit - 1) above with
      | (tree, .error fault) => (tree, .error fault)
      | (tree, .ok ()) =>
        match tree.makeFolder here path with
        | .ok tree => (tree, .ok ())
        | .error .noSuchFile => (tree, .error ⟨.noSuchFile, path.text, none⟩)
        | .error kind => settle tree kind
    | .error kind => settle tree kind

/-- Make the folder at the end of a path, with fewer than `limit` folders above it. -/
def makeFolders (tree : Tree) (limit : Nat) (here : Place) (path : Path) :
    Tree × Except FileFault Unit :=
  tree.makeFoldersAt here path.anchor limit path.names.reverse

end Tree

end KeyBindings
