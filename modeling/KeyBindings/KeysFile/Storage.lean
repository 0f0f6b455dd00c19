import KeyBindings.Host
import KeyBindings.KeysFile.Load

/-!
# The keys file on disk

A keys file that cannot be written is an error. One that cannot be read is not: the table
then gets the default keys, and the report says what happened.
-/
namespace KeyBindings.KeysFile

/-- Why a keys file was not written. -/
inductive StoreError where
  | notCreated (path : Path) (fault : FileFault)
  | notSaved (path : Path) (fault : FileFault)
  /-- The path itself was not taken. -/
  | badPath (fault : FileFault)
  deriving DecidableEq, Repr

def StoreError.message : StoreError → String
  | .notCreated path fault => s!"Could not create default keys file {path.text}: {fault.message}"
  | .notSaved path fault => s!"Could not save keys file {path.text}: {fault.message}"
  | .badPath fault => fault.message

/-- What came of a change to the files: the host afterwards, what was noted, and the result. -/
structure Outcome (ε α : Type) where
  host : Host
  records : List Journal.Record
  result : Except ε α

/-- What is noted of a temporary file that could not be taken away. -/
def leftRecord (left : Path) : Journal.Record :=
  ⟨.warning, Journal.program, s!"Could not remove temporary keys file {left.text}"⟩

/-- Write a text to a file as a whole. -/
def store (host : Host) (path : Path) (text done : String)
    (failed : Path → FileFault → StoreError) : Outcome StoreError Unit :=
  let written := host.writeWhole path text
  match written.result with
  | .ok () => ⟨written.host, [⟨.info, Journal.program, s!"{done} {path.text}"⟩], .ok ()⟩
  | .error fault =>
    ⟨written.host, written.left.toList.map leftRecord,
      .error (if fault.isSystem then failed path fault else .badPath fault)⟩

def storeDefaults (host : Host) (path : Path) : Outcome StoreError Unit :=
  store host path renderDefaults "Default keys file written to" .notCreated

def save (host : Host) (path : Path) (table : Table) : Outcome StoreError Unit :=
  store host path (render table) "Key bindings saved to" .notSaved

def fileLines (content : Text.Utf8.Octets) : List Text.Points :=
  linesOf (Text.unifyLineEnds (Text.Utf8.decodeLossyChars content))

/-- Why no report comes of loading a file. -/
inductive LoadError where
  | badPath (fault : FileFault)
  | corrupt (fault : CorruptDefaults)
  deriving DecidableEq, Repr

structure Loaded where
  table : Table
  records : List Journal.Record
  result : Except LoadError Report

/-- Give the missing actions of a loaded table their default keys. -/
def Loading.complete (loading : Loading) (records : List Journal.Record) : Loaded :=
  if loading.table.missingActions.isEmpty then ⟨loading.table, records, .ok loading.report⟩
  else
    let (table, filled) := loading.table.fillMissing
    ⟨table, records ++ fillRecords filled,
      match filled with
      | .ok filled => .ok { loading.report with filled }
      | .error fault => .error (.corrupt fault)⟩

/-- Load a file, and give the actions that it leaves missing their default keys. -/
def loadFile (host : Host) (path : Path) (table : Table) : Loaded :=
  match host.tree.read host.here path with
  | .ok content =>
    let loading := load table (fileLines content)
    loading.complete (loadRecords loading.report)
  | .error kind =>
    let fault : FileFault := ⟨kind, path.text, none⟩
    if fault.isSystem then
      let report : Report := { problems := [.unreadable fault], fileRead := false }
      let note := s!"Could not read keys file '{path.text}': {fault.message}. Using defaults."
      (Loading.mk table report).complete [⟨.error, Journal.program, note⟩]
    else ⟨table, [], .error (.badPath fault)⟩

/-- What a check of a keys file finds, without any default keys. -/
structure Check where
  report : Report
  undefined : List Action
  missing : List Action

def check (keyboard : Keyboard) (lines : List Text.Points) : Check :=
  let loading := load (Table.fresh keyboard) lines
  ⟨loading.report, loading.table.undefinedActions, loading.table.missingActions⟩

/-- Is nothing refused and nothing missing? -/
def Check.passes (check : Check) : Bool := check.report.ok && check.missing.isEmpty

/-- The findings of a check, line by line. -/
def Check.lines (check : Check) : List String :=
  check.report.problems.map (fun problem => "error: " ++ problem.message) ++
  check.undefined.map (fun action => "undefined: " ++ action.label) ++
  check.missing.map (fun action => s!"missing: {action.label} (default: {action.defaultBinding})") ++
  [s!"{check.report.assigned} key(s) bound, {check.report.problems.length} error(s), " ++
    s!"{check.missing.length} missing action(s)."]

end KeyBindings.KeysFile
