import KeyBindings.Journal.Emission
import KeyBindings.Journal.Folder
import KeyBindings.Setting.Sources
import KeyBindings.Text.Classes

/-!
# Setting up the journal

The settings name a folder, the levels of the file and of the error stream, and whether
there is a file of errors alone. A folder that cannot be made gives way to the folder for
temporary files, and a file that cannot be opened is done without; both are told on the
error stream. When nothing is left to write to, the error stream takes every record that the
journal lets through. Values that cannot be used at all are faults.
-/
namespace KeyBindings.Journal

/-- The usual form of a record. -/
def basicFormat : String := "%(levelname)s:%(name)s:%(message)s"

/-- The forms of a record in three styles, as a message shows them. -/
def shownStyles : String :=
  "\x7b'%': (<class 'logging.PercentStyle'>, '" ++ basicFormat ++ "'), " ++
  "'\x7b': (<class 'logging.StrFormatStyle'>, " ++
  "'\x7blevelname\x7d:\x7bname\x7d:\x7bmessage\x7d'), " ++
  "'$': (<class 'logging.StringTemplateStyle'>, " ++
  "'$\x7blevelname\x7d:$\x7bname\x7d:$\x7bmessage\x7d')\x7d"

/-- Texts that name something else than a level. -/
def reservedNames : List (String × SettingFault) :=
  [("BASIC_FORMAT", .badLevel basicFormat), ("_STYLES", .notLevel shownStyles)]

/-- The name of a level that a setting gives, whatever its case. With surrogates it names none,
and neither does the empty text. -/
def levelName : Setting → Except SettingFault String
  | .unpaired _ => .ok ""
  | setting => setting.asText.map Text.capitals

/-- The level with a name. What names nothing leaves the usual level. -/
def levelOf (name : String) (usual : Level) : Except SettingFault Level :=
  match reservedNames.lookup name with
  | some fault => .error fault
  | none => .ok ((Level.named.lookup name).getD usual)

/-- The sizes at which the files are rotated, and how many older ones are kept. -/
def mainLimit : Nat := 2 * 1024 * 1024
def mainBackups : Nat := 5
def smallLimit : Nat := 1024 * 1024
def smallBackups : Nat := 3

/-- Why the journal was not set up. -/
inductive SetupFault where
  | setting (fault : SettingFault)
  /-- A folder is not to be had. -/
  | badPath (fault : FileFault)
  deriving DecidableEq, Repr

def SetupFault.message : SetupFault → String
  | .setting fault => fault.message
  | .badPath fault => fault.message

/-- Tell something on the error stream. -/
def tell (written : Written) (line : String) : Written :=
  { written with errors := written.errors ++ line ++ "\n" }

/-- What stands before surrogates in the name of a folder, with the home folder in place of a tilde
and a user's name, which ends at a slash. -/
def beforeSurrogates (host : Host) (run : Text.SurrogateRun) : String :=
  let before := String.ofList run.before
  if run.before.contains '/' then host.expandHomeText before else before

/-- Make the folders that are whole in the beginning of a name. -/
def makeWhole (host : Host) (before : String) : Host :=
  let (above, _) := splitLast before
  if above = "" then host else (makeFolder host above).1

/-- The working folder, which can be gone. -/
def workingFolder (host : Host) : Except SetupFault String :=
  if host.isHereThere then .ok host.herePath.text else .error (.badPath ⟨.noSuchFile, "", none⟩)

/-- Give a folder up for the one for temporary files. -/
def fallBack (host : Host) (folder : String) (fault : FileFault) : Written × Except SetupFault String :=
  let written := tell ⟨host, ""⟩ s!"Error creating log directory '{folder}': {fault.message}"
  match host.temporaryFolder with
  | (host, .ok temporary) =>
    (tell { written with host } s!"Logging to temporary directory: '{temporary}'", .ok temporary)
  | (host, .error fault) => ({ written with host }, .error (.badPath fault))

/-- The folder that a setting names, which is made when it is missing, or else the working folder. -/
def resolveFolder (host : Host) (setting : Setting) : Written × Except SetupFault String :=
  if setting.isSet then
    match setting with
    | .text name =>
      let folder := host.expandHomeText name
      match makeFolder host folder with
      | (host, .ok ()) => (⟨host, ""⟩, .ok folder)
      | (host, .error fault) =>
        -- Only the faults of the system fall back to a folder for temporary files.
        if fault.isSystem then fallBack host folder fault else (⟨host, ""⟩, .error (.badPath fault))
    | .unpaired points =>
      -- The missing folders above the first name that cannot be encoded are made all the same.
      let run := Text.firstSurrogates points
      let before := beforeSurrogates host run
      (⟨makeWhole host before, ""⟩, .error (.setting (.unpaired { run with before := before.toList })))
    | other => (⟨host, ""⟩, .error (.setting (.notPath other.kindForPath)))
  else (⟨host, ""⟩, workingFolder host)

def openFile (written : Written) (name : String) : Written × Option Path :=
  let host := written.host
  let path := (Path.ofText name).absolute host.herePath
  match host.tree.openEnd host.here path with
  | .ok (_, tree) => ({ written with host := { host with tree } }, some path)
  | .error kind =>
    let fault : FileFault := ⟨kind, path.text, none⟩
    (tell written s!"Error setting up log file '{name}': {fault.message}.", none)

/-- The spellings that switch the key trace on. -/
def isWanted (value : String) : Bool := ["1", "true", "yes"].contains (Text.smallLetters value)

structure Setup where
  written : Written
  result : Except SetupFault State

/-- Begin the key trace, when the environment asks for it. -/
def beginTrace (written : Written) (folder : String) : Written × Trace × List Record :=
  if isWanted ((written.host.valueOf? Config.keyTraceVariable).getD "") then
    let name := fileIn folder "keytrace.log"
    match openFile written name with
    | (written, some path) =>
      (written, .file path smallLimit smallBackups,
       [⟨.info, root, s!"Key event tracing enabled, logging to '{name}'."⟩])
    | (written, none) => (written, .failed, [])
  else (written, .off, [⟨.debug, root, "Key event tracing is disabled."⟩])

/-- The handlers that the settings give, or the error stream when they give none. -/
def atLeastOne (handlers : List Handler) : List Handler :=
  if handlers.isEmpty then [⟨.plainStream, .notSet⟩] else handlers

/-- The level of the error stream, when records are to be shown there. -/
def consoleLevel (section' : Settings) : Except SettingFault (Option Level) :=
  if (section'.get "log_to_console" (.flag true)).isSet then do
    let name ← levelName (section'.get "console_level" (.text "WARNING"))
    return some (← levelOf name .warning)
  else .ok none

/-- Set up the journal in a folder, with the name of a level for the file. -/
def setupIn (written : Written) (section' : Settings) (folder fileName : String) : Setup :=
  let mainName := fileIn folder "vkeys.log"
  let (written, main) := openFile written mainName
  let fileLevel := levelOf fileName .debug
  -- The level of the file is looked at twice, and the first time only with a file to set it for.
  match (if main.isSome then fileLevel.map fun _ => () else .ok ()), consoleLevel section' with
  | .error fault, _ => ⟨written, .error (.setting fault)⟩
  | .ok (), .error fault => ⟨written, .error (.setting fault)⟩
  | .ok (), .ok consoleLevel =>
    let (written, errorLog) :=
      if (section'.get "separate_error_log" (.flag false)).isSet then
        openFile written (fileIn folder "error.log")
      else (written, none)
    match fileLevel with
    | .error fault => ⟨written, .error (.setting fault)⟩
    | .ok level =>
      let handlers :=
        (main.map fun path => Handler.mk (.file path mainLimit mainBackups) level).toList ++
        (consoleLevel.map fun level => Handler.mk .errorStream level).toList ++
        (errorLog.map fun path => Handler.mk (.file path smallLimit smallBackups) .error).toList
      let (written, trace, traceNotes) := beginTrace written folder
      let state : State := ⟨level, atLeastOne handlers, trace⟩
      let notes :=
        traceNotes ++
        [⟨.info, root, s!"Logging setup complete. Root logger level: {level.name}."⟩] ++
        (if main.isSome then
          [⟨.info, root, s!"File logging to '{mainName}' at level: {level.name}."⟩] else [])
      ⟨emitAll state notes written, .ok state⟩

/-- Set up the journal as the settings say. -/
def setup (host : Host) (settings : Settings) : Setup :=
  match settings.inSection "logging" with
  | .error fault => ⟨⟨host, ""⟩, .error (.setting fault)⟩
  | .ok section' =>
    match resolveFolder host (section'.get "log_dir" .nothing) with
    | (written, .error fault) => ⟨written, .error fault⟩
    | (written, .ok folder) =>
      match levelName (section'.get "file_level" (.text "DEBUG")) with
      | .error fault => ⟨written, .error (.setting fault)⟩
      | .ok fileName => setupIn written section' folder fileName

end KeyBindings.Journal
