import KeyBindings.Key.Keyboard

/-!
# Journal records

What the program notes about its work: a level, the name of the part that speaks, and a
message. Operations hand their records back; where a record is written is decided elsewhere.
-/
namespace KeyBindings.Journal

inductive Level where
  | notSet
  | debug
  | info
  | warning
  | error
  | critical
  deriving DecidableEq, Repr

namespace Level

def name : Level → String
  | .notSet => "NOTSET"
  | .debug => "DEBUG"
  | .info => "INFO"
  | .warning => "WARNING"
  | .error => "ERROR"
  | .critical => "CRITICAL"

def rank : Level → Nat
  | .notSet => 0
  | .debug => 10
  | .info => 20
  | .warning => 30
  | .error => 40
  | .critical => 50

/-- Is a record of level `level` let through where `threshold` is asked for? -/
def reaches (level threshold : Level) : Bool := threshold.rank ≤ level.rank

/-- All levels, under every name they have. -/
def named : List (String × Level) :=
  [("CRITICAL", .critical), ("DEBUG", .debug), ("ERROR", .error), ("FATAL", .critical),
   ("INFO", .info), ("NOTSET", .notSet), ("WARN", .warning), ("WARNING", .warning)]

end Level

/-- The names of the parts that speak. -/
def root : String := "root"
def program : String := "vkeys"
def keyTrace : String := "vkeys.keyevents"

structure Record where
  level : Level
  source : String
  message : String
  deriving DecidableEq, Repr

/-- What is noted about a key that was decoded, whatever it is bound to. -/
def keyRecord (keyboard : Keyboard) (code : Int) : Record :=
  ⟨.debug, keyTrace, "key " ++ keyboard.describe code⟩

end KeyBindings.Journal
