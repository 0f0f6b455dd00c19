import KeyBindings.Host
import KeyBindings.Journal.Record
import KeyBindings.Text.Layout

/-!
# Where records are written

Records go to handlers: files, and the error stream. A handler passes over what is below its
level, and so does the journal as a whole. A journal that got no handler by its settings
writes to the error stream in a plain form. The key trace is a journal of its own, with a file
or without. A record that finds no handler at all goes to the error stream bare, if it is a
warning or worse.
-/
namespace KeyBindings.Journal

/-- Where a handler writes. A file is rotated before it outgrows `limit` octets. -/
inductive Sink where
  | file (path : Path) (limit backups : Nat)
  | errorStream
  /-- The error stream, in the form of a journal that has nowhere else to write. -/
  | plainStream
  deriving DecidableEq, Repr

structure Handler where
  sink : Sink
  level : Level
  deriving DecidableEq, Repr

/-- What becomes of traced keys. -/
inductive Trace where
  | off
  /-- The trace was wanted, but its file cannot be written. -/
  | failed
  | file (path : Path) (limit backups : Nat)
  deriving DecidableEq, Repr

structure State where
  level : Level := .warning
  handlers : List Handler := []
  trace : Trace := .off
  deriving Repr

/-- The name of the part that speaks. A part without a name is the whole program. -/
def speaker (record : Record) : String := if record.source = "" then root else record.source

def fileLine (record : Record) : String :=
  Text.padRight 8 record.level.name ++ " - " ++ Text.padRight 15 (speaker record) ++ " - " ++
    record.message

def errorLine (record : Record) : String :=
  Text.padRight 8 record.level.name ++ " - " ++ Text.padRight 12 (speaker record) ++ " - " ++
    record.message

/-- A line for the error stream in its plain form. -/
def plainLine (record : Record) : String :=
  record.level.name ++ ":" ++ speaker record ++ ":" ++ record.message

/-- What was written: the host with its files, and text on the error stream. -/
structure Written where
  host : Host
  errors : String := ""

def appendLine (host : Host) (path : Path) (line : String) : Host :=
  match host.tree.openEnd host.here path with
  | .ok (place, opened) => { host with tree := (opened.fill place (Text.Utf8.encode (line ++ "\n"))).1 }
  | .error _ => host

def Handler.handle (handler : Handler) (record : Record) (written : Written) : Written :=
  if record.level.reaches handler.level then
    match handler.sink with
    | .file path _ _ => { written with host := appendLine written.host path (fileLine record) }
    | .errorStream => { written with errors := written.errors ++ errorLine record ++ "\n" }
    | .plainStream => { written with errors := written.errors ++ plainLine record ++ "\n" }
  else written

/-- Write a record that found no handler. -/
def bare (record : Record) (written : Written) : Written :=
  if record.level.reaches .warning then
    { written with errors := written.errors ++ record.message ++ "\n" }
  else written

/-- Does the key trace get the records of this part? -/
def isTraced (source : String) : Bool := source = keyTrace || source.startsWith (keyTrace ++ ".")

/-- Write a record of the key trace. What is below the trace writes even when it is off, but
then without a handler. -/
def emitTraced (state : State) (record : Record) (written : Written) : Written :=
  match state.trace with
  | .file path _ _ =>
    if record.level.reaches .debug then
      { written with host := appendLine written.host path record.message }
    else written
  | .off => written
  | .failed => if record.source = keyTrace then written else bare record written

/-- Write a record. One that has no level is never written. -/
def emit (state : State) (record : Record) (written : Written) : Written :=
  if isTraced record.source then emitTraced state record written
  else if record.level ≠ .notSet && record.level.reaches state.level then
    if state.handlers.isEmpty then bare record written
    else state.handlers.foldl (fun written handler => handler.handle record written) written
  else written

def emitAll (state : State) (records : List Record) (written : Written) : Written :=
  records.foldl (fun written record => emit state record written) written

end KeyBindings.Journal
