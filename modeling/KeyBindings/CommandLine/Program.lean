import KeyBindings.CommandLine.Help
import KeyBindings.CommandLine.Locale
import KeyBindings.Inspector
import KeyBindings.Journal.Setup
import KeyBindings.Tester

/-!
# The program

The program reads its environment file and settings, sets up its journal, and then does what
its arguments ask for: it writes the default keys, checks a keys file, shows keys as they
are pressed, or runs the key tester. What fails on the way is told on the error stream and
ends the program with status 1; arguments that are refused end it with status 2.
-/
namespace KeyBindings.CommandLine

/-- What the program is given to interact with: a window, what is going to happen there, and
what the terminal refuses. -/
structure Display where
  window : Window Refusal
  events : List Event
  refusesDelay : Bool := false
  refusesCursor : Bool := false

/-- A fault that the program has no answer to. -/
inductive ProgramFault where
  | home (fault : HomeFault)
  | keyboard (fault : KeyboardFault)
  | file (fault : FileFault)
  deriving DecidableEq, Repr

inductive Exit where
  | returned
  | status (code : Nat)
  /-- Events were wanted when there were no more. -/
  | stopped
  | broken (fault : ProgramFault)
  deriving DecidableEq, Repr

/-- A program at work: its journal, what it wrote to files and the error stream, and its
output. -/
structure Work where
  journal : Journal.State
  written : Journal.Written
  output : String := ""

namespace Work

def host (work : Work) : Host := work.written.host

def withHost (work : Work) (host : Host) : Work := { work with written.host := host }

/-- Put records into the journal. -/
def note (work : Work) (records : List Journal.Record) : Work :=
  { work with written := Journal.emitAll work.journal records work.written }

def print (work : Work) (text : String) : Work := { work with output := work.output ++ text }

def complain (work : Work) (text : String) : Work :=
  { work with written.errors := work.written.errors ++ text }

end Work

/-- What came of a program: what it wrote, how it ended, the frames it drew, and the calls on
the window and the terminal that no frame holds. -/
structure Outcome where
  work : Work
  exit : Exit
  frames : List Frame := []
  screen : List Call := []
  terminal : List TerminalCall := []

/-- What is told when the environment file is no use. -/
def variablesWarning (reason : String) : String :=
  s!"Warning: could not load .env file: {reason}\n"

/-- Set the variables of the environment file. -/
def loadVariables (host : Host) : Journal.Written :=
  match Config.folder host with
  | .error fault => ⟨host, variablesWarning fault.message⟩
  | .ok folder =>
    match host.tree.read host.here (folder.child ".env") with
    | .error _ => ⟨host, ""⟩
    | .ok content =>
      match Text.Utf8.decodeChars content with
      | .ok text =>
        match Variables.adopt host (Text.unifyLineEnds text) with
        | (host, .ok ()) => ⟨host, ""⟩
        | (host, .error fault) => ⟨host, variablesWarning fault.message⟩
      | .error fault => ⟨host, variablesWarning fault.message⟩

/-- What is told when the program cannot start. -/
def startFailure (reason : String) : String :=
  s!"FATAL: Could not initialize configuration or logging system: {reason}\n"

/-- Read the settings and set up the journal. What is noted before there is a journal is
lost. -/
def prepare (host : Host) : Work × Except String Settings :=
  let loaded := loadVariables host
  let config := Config.load loaded.host
  match config.result with
  | .error fault => (⟨{}, ⟨config.host, loaded.errors⟩, ""⟩, .error fault.message)
  | .ok settings =>
    let setup := Journal.setup config.host settings
    let written : Journal.Written := ⟨setup.written.host, loaded.errors ++ setup.written.errors⟩
    match setup.result with
    | .error fault => (⟨{}, written, ""⟩, .error fault.message)
    | .ok journal => (⟨journal, written, ""⟩, .ok settings)

/-- What is noted when the key bindings cannot be used. -/
def fatalRecord (message : String) : Journal.Record :=
  ⟨.critical, Journal.program, s!"Fatal key configuration error: {message}"⟩

def failKeys (work : Work) (message : String) : Work :=
  (work.note [fatalRecord message]).complain s!"Error: {message}\n"

def dumpDefaults (work : Work) (path : Path) : Work × Exit :=
  let stored := KeysFile.storeDefaults work.host path
  let work := (work.withHost stored.host).note stored.records
  match stored.result with
  | .ok () => (work.print s!"Default key bindings written to {path.text}\n", .status 0)
  | .error (.badPath fault) => (work, .broken (.file fault))
  | .error fault => (failKeys work fault.message, .status 1)

/-- Check a keys file, and print what is wrong with it. -/
def checkFile (work : Work) (keyboard : Keyboard) (path : Path) : Work × Exit :=
  match work.host.tree.read work.host.here path with
  | .error kind =>
    let fault : FileFault := ⟨kind, path.text, none⟩
    if fault.isSystem then
      (work.complain s!"Cannot read {path.text}: {fault.message}\n", .status 1)
    else (work, .broken (.file fault))
  | .ok content =>
    let check := KeysFile.check keyboard (KeysFile.fileLines content)
    let noted := work.note (KeysFile.loadRecords check.report)
    (noted.print (Text.unlines check.lines), .status (if check.passes then 0 else 1))

/-- Do something with a file and a keyboard, once both are there. -/
def withFile (work : Work) (keyboard : Except KeyboardFault Keyboard) (file : String)
    (job : Work → Keyboard → Path → Work × Exit) : Work × Exit :=
  match work.host.expandHome (Path.ofText file), keyboard with
  | .error fault, _ => (work, .broken (.home fault))
  | .ok _, .error fault => (work, .broken (.keyboard fault))
  | .ok path, .ok keyboard => job work keyboard path

/-- A screen that was prepared: the window, and the calls on the terminal. -/
structure Prepared where
  host : Host
  window : Window Refusal
  terminal : List TerminalCall

/-- Put the delay after an escape into the environment. A delay that is too long to be written
cannot go there. -/
def exportDelay? (host : Host) (delay : Int) : Option Host := do
  (host.setDefault "ESCDELAY" (← Text.writeInteger? delay)).toOption

/-- Prepare the screen. The delay after an escape goes into the environment when the terminal
does not take it. -/
def prepareScreen? (host : Host) (display : Display) (delay : Int) : Option Prepared := do
  let host ← if display.refusesDelay then exportDelay? host delay else some host
  let delays := if display.refusesDelay then [] else [TerminalCall.escapeDelay delay]
  let cursors := if display.refusesCursor then [] else [TerminalCall.cursor 0]
  return ⟨host, display.window.call .keypad, delays ++ cursors⟩

/-- How long a lone escape is waited for when the settings do not say. -/
def usualDelay : Int := 25

/-- The delay after an escape that the settings ask for. -/
def delayOf (settings : Settings) : Except SettingFault Int := do
  let keys ← settings.inSection "keys"
  (keys.get "escdelay" (.whole usualDelay)).asNumber

/-- End because of something that nobody foresaw. -/
def crash (work : Work) : Work :=
  work.note [⟨.critical, Journal.program, "Unhandled exception at the top level."⟩]

def failLoad (work : Work) : BinderFault → Work
  | .store (.badPath _) => crash work
  | .store fault => failKeys work fault.message
  | .load (.corrupt fault) => failKeys work fault.message
  | .load (.badPath _) => crash work
  | .file _ => crash work

/-- What is noted when the interaction ended as it should. -/
def shutDown (work : Work) : Work :=
  work.note [⟨.info, Journal.program, "vkeys shut down gracefully."⟩]

/-- Show keys until the escape key. -/
def inspect (work : Work) (binder : Binder) (prepared : Prepared) (events : List Event) : Outcome :=
  let inspected := Inspector.run binder.table prepared.window events
  let traced := work.note (inspected.keys.map (Journal.keyRecord binder.table.keyboard))
  { work := if inspected.ended then shutDown traced else traced
    exit := if inspected.ended then .returned else .stopped
    screen := inspected.window.calls
    terminal := prepared.terminal }

/-- What is noted at the end of the key tester, and how the program ends with it. -/
def afterTest (work : Work) : Tester.Ending → Work × Exit
  | .quit => (shutDown work, .returned)
  | .starved => (work, .stopped)
  | .unshowable => (crash work, .status 1)

def test (work : Work) (binder : Binder) (prepared : Prepared) (events : List Event) : Outcome :=
  let tested := (Tester.make binder prepared.window 0 prepared.terminal).run events
  let (work, exit) := afterTest (work.note tested.records) tested.ending
  { work
    exit
    frames := tested.frames
    screen := tested.tester.screen.calls
    terminal := tested.tester.terminal }

/-- What is noted when the program begins to interact. -/
def startRecords (host : Host) : List Journal.Record :=
  ⟨.info, Journal.program, "vkeys starting up..."⟩ ::
  if hasLocale host then []
  else [⟨.warning, Journal.program,
    "Could not set system locale. Character rendering may be affected."⟩]

/-- Load the key bindings and interact on the screen. -/
def interact (work : Work) (settings : Settings) (keyboard : Except KeyboardFault Keyboard)
    (display : Display)
    (job : Work → Binder → Prepared → List Event → Outcome) : Outcome :=
  let work := work.note (startRecords work.host)
  -- The screen is prepared first: the names of the keys are known only after that.
  match (delayOf settings).toOption.bind (prepareScreen? work.host display) with
  | none => ⟨crash work, .status 1, [], [], []⟩
  | some prepared =>
    let work := work.withHost prepared.host
    let fail := fun (work : Work) =>
      Outcome.mk work (.status 1) [] prepared.window.calls prepared.terminal
    match keyboard with
    | .error _ => fail (crash work)
    | .ok keyboard =>
      match Binder.make work.host (.table settings) keyboard with
      | .error _ => fail (crash work)
      | .ok binder =>
        let loaded := binder.load work.host binder.keysFile
        let work := (work.withHost loaded.host).note loaded.records
        match loaded.result with
        | .error fault => fail (failLoad work fault)
        | .ok _ => job work loaded.binder prepared display.events

def runMode (work : Work) (settings : Settings) (keyboard : Except KeyboardFault Keyboard)
    (display : Display) : Mode → Outcome
  | .dumpDefaults file =>
    let (work, exit) := withFile work keyboard file fun work _ path => dumpDefaults work path
    { work, exit }
  | .check file =>
    let (work, exit) := withFile work keyboard file checkFile
    { work, exit }
  | .debugKeys => interact work settings keyboard display inspect
  | .test => interact work settings keyboard display test

def start (host : Host) (limits : Limits) (terminal : Terminal) (display : Display)
    (arguments : List String) : Outcome :=
  match prepare host with
  | (work, .error reason) => ⟨work.complain (startFailure reason), .status 1, [], [], []⟩
  | (work, .ok settings) =>
    let columns := columnsOf work.host
    match read arguments with
    | .error error => ⟨work.complain (errorText columns error), .status 2, [], [], []⟩
    | .ok .showHelp => ⟨work.print (helpText columns), .status 0, [], [], []⟩
    | .ok .showVersion => ⟨work.print versionText, .status 0, [], [], []⟩
    | .ok (.run mode) => runMode work settings (Keyboard.make limits terminal) display mode

end KeyBindings.CommandLine
