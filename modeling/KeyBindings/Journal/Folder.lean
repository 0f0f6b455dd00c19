import KeyBindings.Host

/-!
# The folder of the journal

The journal's folder is named by a text, which is used as it stands, so that messages show
it as the user wrote it. A single dot in it stands for the folder before it, and a slash at
its end says that it is a folder.
-/
namespace KeyBindings.Journal

/-- A text cut after its last slash. The first part loses the slashes at its end, unless it
has nothing else. -/
def splitLast (text : String) : String × String :=
  let back := text.toList.reverse
  let last := (back.takeWhile (· ≠ '/')).reverse
  let before := back.dropWhile (· ≠ '/')
  let bare := before.dropWhile (· = '/')
  (String.ofList (if bare.isEmpty then before.reverse else bare.reverse), String.ofList last)

/-- Follow the names of a text, single dots among them, and then some more. -/
def follow (host : Host) (text : String) (more : List String) : Except FaultKind Tree.Spot :=
  match Tree.refusal? text with
  | some kind => .error kind
  | none =>
    let chars := text.toList
    let anchor := Path.anchorOf (chars.takeWhile (· = '/')).length
    host.tree.follow host.here anchor ((Path.namesOf chars).map String.ofList ++ more)

/-- What stands at the end of a text. Only a folder stands where the text ends in a slash. -/
def entryAt? (host : Host) (text : String) : Option Entry :=
  let more := if text.endsWith "/" then ["."] else []
  match follow host text more with
  | .ok spot => spot.entry
  | .error _ => none

def isFolder (host : Host) (text : String) : Bool :=
  match entryAt? host text with
  | some (.folder _) => true
  | _ => false

/-- Make one folder, unless it is there. -/
def makeOne (host : Host) (text : String) : Host × Except FileFault Unit :=
  match (follow host text []).bind host.tree.makeFolderAt with
  | .ok tree => ({ host with tree }, .ok ())
  | .error kind =>
    if kind.isSystem && isFolder host text then (host, .ok ())
    else (host, .error ⟨kind, text, none⟩)

/-- Make a folder and fewer than `limit` folders above it. -/
def makeUpTo : Nat → Host → String → Host × Except FileFault Unit
  | 0, host, text => (host, .error ⟨.tooDeepAsWritten, text, none⟩)
  | limit + 1, host, text =>
    let (above, last) := match splitLast text with
      | (above, "") => splitLast above
      | parts => parts
    if above = "" || last = "" || (entryAt? host above).isSome then makeOne host text
    else match makeUpTo limit host above with
      | (host, .error fault) =>
        if fault.kind = .alreadyThere then makeOne host text else (host, .error fault)
      | (host, .ok ()) => if last = "." then (host, .ok ()) else makeOne host text

def makeFolder (host : Host) (text : String) : Host × Except FileFault Unit :=
  makeUpTo host.calls.folders host text

def fileIn (folder name : String) : String :=
  if folder = "" || folder.endsWith "/" then folder ++ name else folder ++ "/" ++ name

end KeyBindings.Journal
