import KeyBindings.Journal.Record
import KeyBindings.Setting.Merge
import KeyBindings.Setting.Toml.Document
import KeyBindings.Setting.Variables
import KeyBindings.Text.Pieces

/-!
# Where settings come from

The program has settings of its own, over which it lays those of the user's settings file.
That file stands in the configuration folder, which is made on the first run together with
an environment file. A settings file that cannot be read is passed over.
-/
namespace KeyBindings

/-- Why the settings, or something they name, are not to be had. -/
inductive ConfigFault where
  | setting (fault : SettingFault)
  | home (fault : HomeFault)
  | file (fault : FileFault)
  deriving DecidableEq, Repr

def ConfigFault.message : ConfigFault → String
  | .setting fault => fault.message
  | .home fault => fault.message
  | .file fault => fault.message

namespace Config

/-- Names the configuration folder. -/
def folderVariable : String := "VKEYS_CONFIG_DIR"

/-- Switches the key trace on. -/
def keyTraceVariable : String := "VKEYS_KEYTRACE"

/-- The environment file that is made on the first run. -/
def environmentTemplate : String :=
  "# Environment for vkeys.\n" ++
  "# Set VKEYS_KEYTRACE=1 to record every decoded key in keytrace.log.\n" ++
  "VKEYS_KEYTRACE=\n"

/-- The settings that hold when the user gives none. -/
def defaults : Settings :=
  [("logging", .table
    [("file_level", .text "INFO"), ("console_level", .text "WARNING"),
     ("log_to_console", .flag false), ("separate_error_log", .flag false),
     ("log_dir", .text "")]),
   ("keys", .table
    [("file", .text "keys"), ("cmds_per_line", .whole 6), ("escdelay", .whole 25)])]

def folder (host : Host) : Except HomeFault Path :=
  match host.valueOf? folderVariable with
  | some (text) =>
    if text = "" then usual else host.expandHome (Path.ofText text)
  | none => usual
where
  /-- The folder when no other is named. -/
  usual : Except HomeFault Path :=
    (host.expandHome ⟨.here, ["~"]⟩).map fun home => (home.child ".config").child "vkeys"

/-- The keys file that the settings name. A relative path starts in the configuration
folder. -/
def keysFile (host : Host) (settings : Settings) : Except ConfigFault Path := do
  let section' ← (settings.inSection "keys").mapError .setting
  let name ← (section'.get "file" (.text "keys")).asText.mapError .setting
  let path ← (host.expandHome (Path.ofText name)).mapError .home
  if path.isAbsolute then return path
  else return (← (folder host).mapError .home).join path

/-- Make the configuration folder and its environment file when they are missing. -/
def makeFolder (host : Host) : Host × Except ConfigFault Unit :=
  match folder host with
  | .error fault => (host, .error (.home fault))
  | .ok folder =>
    match host.makeFolders folder with
    | (host, .error fault) => (host, .error (.file fault))
    | (host, .ok ()) =>
      let file := folder.child ".env"
      match host.tree.isThere host.here file with
      | .ok true => (host, .ok ())
      | .error kind => (host, .error (.file ⟨kind, file.text, none⟩))
      | .ok false =>
        let (tree, written) := host.tree.write host.here file (Text.Utf8.encode environmentTemplate)
        ({ host with tree }, written.mapError .file)

/-- What is noted when the configuration folder cannot be made. -/
def folderRecords : Except ConfigFault Unit → List Journal.Record
  | .ok () => []
  | .error fault =>
    [⟨.critical, Journal.program, s!"Could not create user configuration files: {fault.message}"⟩]

/-- Make what is missing in the configuration folder; a failure is only noted. -/
def ensure (host : Host) : Host × List Journal.Record :=
  let (host, made) := makeFolder host
  (host, folderRecords made)

def readSettings? (limit : Nat) (content : Text.Utf8.Octets) : Option Settings :=
  match Text.Utf8.decodeChars content with
  | .ok text => Toml.read? limit (Text.unifyLineEnds text)
  | .error _ => none

/-- The settings that a program starts with. -/
structure Loaded where
  host : Host
  records : List Journal.Record
  result : Except ConfigFault Settings

/-- The program's settings with those of the user laid over them. -/
def load (host : Host) : Loaded :=
  let (host, records) := ensure host
  match folder host with
  | .error fault => ⟨host, records, .error (.home fault)⟩
  | .ok folder =>
    let file := folder.child "config.toml"
    match host.tree.isFile host.here file with
    | .error kind => ⟨host, records, .error (.file ⟨kind, file.text, none⟩)⟩
    | .ok false => ⟨host, records, .ok defaults⟩
    | .ok true =>
      -- Whatever goes wrong with the user's file, in reading or in merging, leaves the defaults.
      let given := (host.tree.read host.here file).toOption.bind (readSettings? host.calls.values)
      match given.bind (Settings.mergeWithin host.calls.tables defaults) with
      | some settings => ⟨host, records, .ok settings⟩
      | none =>
        let note := s!"Could not parse user config '{file.text}': ... Using defaults."
        ⟨host, records ++ [⟨.error, Journal.program, note⟩], .ok defaults⟩

end Config

end KeyBindings
