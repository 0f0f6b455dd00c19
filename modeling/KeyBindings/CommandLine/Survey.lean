import KeyBindings.CommandLine.Program

/-!
# Paths that a run is about

Before the program runs, the files that it may read or replace are taken into the tree of
its host. Which ones these are depends on the environment, then on the settings and the
arguments.
-/
namespace KeyBindings.CommandLine

def knownVariables : List String :=
  ["HOME", "ESCDELAY", "LC_ALL", "LANG", Config.folderVariable, Config.keyTraceVariable] ++
    categoryVariables ++ Host.temporaryVariables

/-- The files that say how the program is to run. -/
def settingsFiles (host : Host) : List Path :=
  match Config.folder host with
  | .ok folder => [folder.child ".env", folder.child "config.toml"]
  | .error _ => []

def journalFiles (folder : Path) : List Path :=
  ["vkeys.log", "error.log", "keytrace.log"].map folder.child

def argumentFiles (host : Host) (arguments : List String) : List Path :=
  let named := match read arguments with
    | .ok (.run (.dumpDefaults file)) => [file]
    | .ok (.run (.check file)) => [file]
    | _ => []
  named.filterMap fun file => (host.expandHome (Path.ofText file)).toOption

/-- The files that the program may read or write once it has its settings. -/
def workFiles (host : Host) (settings : Settings) (arguments : List String) : List Path :=
  let keys := (Config.keysFile host settings).toOption.toList
  let named := match settings.inSection "logging" with
    | .ok logging => (logging.get "log_dir" .nothing).asText.toOption.toList
    | .error _ => []
  let spare := host.temporary.toList ++ host.temporaryCandidates
  let folders := host.herePath ::
    (spare ++ named.map host.expandHomeText).map Path.ofText
  keys ++ folders.flatMap journalFiles ++ argumentFiles host arguments

/-- A path with all paths above it, outermost first. -/
def withParents (path : Path) : List Path :=
  (List.range path.names.length).map fun n => { path with names := path.names.take (n + 1) }

/-- What is new or different in a tree. -/
def changes (before after : Tree) : List Item :=
  let old := before.items
  after.items.filter fun item => !old.contains item

/-- How the keys are called: by their usual names on a screen, and not at all without one. -/
def terminalFor (arguments : List String) : Terminal :=
  match read arguments with
  | .ok (.run .test) => .usual
  | .ok (.run .debugKeys) => .usual
  | _ => .closed

end KeyBindings.CommandLine
