import KeyBindings.Files.Tree

/-!
# The host of a program

What a program finds around it: files, a working folder, environment variables, and the
home folders of users. The host also gives the characters that make the name of a temporary
file unused, and says how far functions may call themselves.
-/
namespace KeyBindings

/-- How often functions may call themselves before the program gives up. What is left of the stack
for each of them depends on where it is called. -/
structure Calls where
  /-- One call for each folder that is made above another. -/
  folders : Nat
  /-- Calls for a setting inside others, as they are read. -/
  values : Nat
  /-- One call for each table inside another, as tables are merged. -/
  tables : Nat
  one_folder : 0 < folders
  one_table : 0 < tables

/-- The whole stack. -/
def Calls.usual : Calls := ⟨1000, 1000, 1000, Nat.succ_pos 999, Nat.succ_pos 999⟩

structure Host where
  tree : Tree
  /-- The working folder. -/
  here : Place
  environment : List (String × String)
  /-- Home folders by user name. The empty name is the user who runs the program. -/
  homes : List (String × String) := []
  /-- The folder for temporary files, once one has been found. -/
  temporary : Option String := none
  /-- Makes the name of a temporary file one that nothing else has. -/
  salt : String := "00000000"
  calls : Calls := .usual

/-- Why a home folder is not to be had. -/
inductive HomeFault where
  | unknown
  /-- The name of the user holds a null character. -/
  | nullCharacter
  deriving DecidableEq, Repr

def HomeFault.message : HomeFault → String
  | .unknown => "Could not determine home directory."
  | .nullCharacter => "embedded null byte"

/-- Why an environment variable cannot be set. -/
inductive VariableFault where
  | nullCharacter
  | illegalName
  deriving DecidableEq, Repr

def VariableFault.message : VariableFault → String
  | .nullCharacter => "embedded null byte"
  | .illegalName => "illegal environment variable name"

namespace Host

def valueOf? (host : Host) (name : String) : Option String := host.environment.lookup name

def setVariable (host : Host) (name value : String) : Host :=
  { host with environment := (host.environment.filter fun entry => entry.1 ≠ name) ++ [(name, value)] }

def unsetVariable (host : Host) (name : String) : Host :=
  { host with environment := host.environment.filter fun entry => entry.1 ≠ name }

/-- Why a variable cannot have a name and a value, if it cannot. -/
def variableFault? (name value : String) : Option VariableFault :=
  if name.toList.contains '\x00' || value.toList.contains '\x00' then some .nullCharacter
  else if name.toList.contains '=' then some .illegalName
  else none

/-- Set an environment variable that is not set yet. -/
def setDefault (host : Host) (name value : String) : Except VariableFault Host :=
  if (host.valueOf? name).isSome then .ok host
  else match variableFault? name value with
    | some fault => .error fault
    | none => .ok (host.setVariable name value)

def herePath (host : Host) : Path := ⟨.root, host.here⟩

/-- The home folder of a user, by the name after the tilde. -/
def homeOf? (host : Host) (user : String) : Option String :=
  if user = "" then (host.valueOf? "HOME").or (host.homes.lookup "")
  else host.homes.lookup user

/-- A text that starts with a tilde and a user name, with that user's home folder in place of
them. It stays as it is when the user is not known. -/
def expandHomeText (host : Host) (text : String) : String :=
  match text.toList with
  | '~' :: rest =>
    let user := rest.takeWhile (· ≠ '/')
    match host.homeOf? (String.ofList user) with
    | none => text
    | some home =>
      let bare := (home.toList.reverse.dropWhile (· = '/')).reverse
      let whole := String.ofList (bare ++ rest.dropWhile (· ≠ '/'))
      if whole = "" then "/" else whole
  | _ => text

/-- A path that starts with a tilde, with the home folder in place of it. -/
def expandHome (host : Host) (path : Path) : Except HomeFault Path :=
  match path.anchor, path.names with
  | .here, first :: rest =>
    if first.startsWith "~" then
      let home := host.expandHomeText first
      if first.toList.contains '\x00' then .error .nullCharacter
      else if home.startsWith "~" then .error .unknown
      else
        let start := Path.ofText home
        .ok { start with names := start.names ++ rest }
    else .ok path
  | _, _ => .ok path

def makeFolders (host : Host) (path : Path) : Host × Except FileFault Unit :=
  let (tree, made) := host.tree.makeFolders host.calls.folders host.here path
  ({ host with tree }, made)

/-! ### Temporary files -/

def isHereThere (host : Host) : Bool :=
  match host.tree.find? host.here with
  | some (.folder _) => true
  | _ => false

/-- The variables that name a folder for temporary files. -/
def temporaryVariables : List String := ["TMPDIR", "TEMP", "TMP"]

/-- The folders in which temporary files may go, in the order in which they are tried. -/
def temporaryCandidates (host : Host) : List String :=
  temporaryVariables.filterMap (fun name => (host.valueOf? name).filter (· ≠ "")) ++
    ["/tmp", "/var/tmp", "/usr/tmp", if host.isHereThere then host.herePath.text else "."]

/-- The absolute path of a candidate; a dot stays as it is. -/
def candidatePath (host : Host) (candidate : String) : Except FileFault Path :=
  let path := Path.ofText candidate
  if candidate = "." then .ok path
  else if path.isAbsolute || host.isHereThere then .ok (path.absolute host.herePath)
  else .error ⟨.noSuchFile, "", none⟩

/-- Can a file be made in a folder, be written, and be taken away again? What cannot be taken away
stays. -/
def probe (host : Host) (folder : Path) : Host × Bool :=
  let file := folder.child host.salt
  match host.tree.create host.here file with
  | .error _ => (host, false)
  | .ok (place, opened) =>
    let (filled, written) := opened.fill place (Text.Utf8.encode "blat")
    match filled.unlink host.here file with
    | .error _ => ({ host with tree := filled }, false)
    | .ok tree => ({ host with tree }, written.isOk)

def firstUsable (host : Host) : List String → Host × Except FileFault (Option String)
  | [] => (host, .ok none)
  | candidate :: rest =>
    match host.candidatePath candidate with
    | .error fault => (host, .error fault)
    | .ok folder =>
      match host.probe folder with
      | (host, true) => (host, .ok (some folder.text))
      | (host, false) => host.firstUsable rest

/-- The folder for temporary files. It is looked for once. -/
def temporaryFolder (host : Host) : Host × Except FileFault String :=
  match host.temporary with
  | some folder => (host, .ok folder)
  | none =>
    match host.firstUsable host.temporaryCandidates with
    | (host, .ok (some folder)) => ({ host with temporary := some folder }, .ok folder)
    | (host, .ok none) => (host, .error ⟨.noTemporaryFolder host.temporaryCandidates, "", none⟩)
    | (host, .error fault) => (host, .error fault)

def temporaryName (host : Host) (name : String) : String :=
  "." ++ name ++ "." ++ host.salt ++ ".tmp"

/-- Where a text is written before it takes the place of a file. -/
def temporaryPath (host : Host) (path : Path) : Path :=
  (path.parent.absolute host.herePath).child (host.temporaryName path.name)

/-! ### Whole files -/

/-- Fill a temporary file and move it to the place of another. -/
def fillAndMove (host : Host) (opened : Tree) (place : Place) (path : Path) (text : String) :
    Tree × Except FileFault Unit :=
  match opened.fill place (Text.Utf8.encode text) with
  | (filled, .error fault) => (filled, .error fault)
  | (filled, .ok ()) =>
    let beside := host.temporaryPath path
    match filled.rename host.here beside path with
    | .ok tree => (tree, .ok ())
    | .error kind => (filled, .error ⟨kind, beside.text, some path.text⟩)

structure WholeWrite where
  host : Host
  /-- A temporary file that could not be taken away. -/
  left : Option Path
  result : Except FileFault Unit

/-- Write a whole file or none of it: the text goes to a temporary file beside the target,
which then takes the target's place. When that fails the temporary file is taken away. -/
def writeWhole (host : Host) (path : Path) (text : String) : WholeWrite :=
  match host.makeFolders path.parent with
  | (host, .error fault) => ⟨host, none, .error fault⟩
  | (host, .ok ()) =>
    let beside := host.temporaryPath path
    match host.tree.create host.here beside with
    | .error kind => ⟨host, none, .error ⟨kind, beside.text, none⟩⟩
    | .ok (place, opened) =>
      match host.fillAndMove opened place path text with
      | (tree, .ok ()) => ⟨{ host with tree }, none, .ok ()⟩
      | (tree, .error fault) =>
        match tree.unlink host.here beside with
        | .ok tree => ⟨{ host with tree }, none, .error fault⟩
        | .error _ => ⟨{ host with tree }, some beside, .error fault⟩

end Host

end KeyBindings
