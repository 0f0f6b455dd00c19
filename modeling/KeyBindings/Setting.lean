import KeyBindings.Moment
import KeyBindings.Number.Fractional
import KeyBindings.Text.CodePoint

/-!
# Settings

A setting is a value from a configuration file: a scalar, a day or time, a list, or a table of
named settings in the order in which they were given.
-/
namespace KeyBindings

inductive Setting where
  | nothing
  | flag (value : Bool)
  | whole (value : Int)
  | fractional (value : Fractional)
  | text (value : String)
  /-- A text in which surrogates stand alone. -/
  | unpaired (points : Text.Points)
  | moment (value : Moment)
  | list (items : List Setting)
  | table (entries : List (String × Setting))
  deriving Repr, Inhabited

abbrev Settings := List (String × Setting)

/-- Why a setting cannot be used as it is meant. -/
inductive SettingFault where
  /-- A setting of this kind has no named parts. -/
  | notTable (kind : String)
  /-- A setting of this kind is no number. -/
  | notNumber (kind : String)
  /-- What is shown so does not spell a whole number. -/
  | badNumber (shown : String)
  /-- The text spells a number of more digits than are read. -/
  | longNumber (digits : Nat)
  /-- A number has more digits than are written. -/
  | unwritable
  /-- A moment belongs to a zone that is too far away. -/
  | farZone
  /-- A number has no whole part. -/
  | notWhole (reason : Fractional.WholeFault)
  /-- A setting of this kind is no path. -/
  | notPath (kind : String)
  /-- The text has no octets. -/
  | unpaired (run : Text.SurrogateRun)
  /-- The text names no level of the journal. -/
  | badLevel (text : String)
  /-- What the text names is shown so, and is no level of the journal. -/
  | notLevel (shown : String)
  /-- Two settings have tables inside each other further than functions may call themselves. -/
  | tooDeep
  deriving DecidableEq, Repr

/-- How many characters of a text that spells no number are shown. -/
def SettingFault.shownLimit : Nat := 200

def SettingFault.message : SettingFault → String
  | .notTable kind => s!"'{kind}' object has no attribute 'get'"
  | .notNumber kind =>
    "int() argument must be a string, a bytes-like object or a real number, not " ++ s!"'{kind}'"
  | .badNumber shown =>
    "invalid literal for int() with base 10: " ++ String.ofList (shown.toList.take shownLimit)
  | .longNumber digits => Text.unreadableMessage digits
  | .unwritable => Text.unwritableMessage
  | .farZone => Moment.farZoneMessage
  | .notWhole reason => reason.message
  | .notPath kind => s!"expected str, bytes or os.PathLike object, not {kind}"
  | .unpaired run => run.message
  | .badLevel text => "Unknown level: " ++ Text.quoted text
  | .notLevel shown => s!"Level not an integer or a valid string: {shown}"
  | .tooDeep => "maximum recursion depth exceeded while calling a Python object"

namespace Setting

def kind : Setting → String
  | .nothing => "NoneType"
  | .flag _ => "bool"
  | .whole _ => "int"
  | .fractional _ => "float"
  | .text _ => "str"
  | .unpaired _ => "str"
  | .moment value => value.kind
  | .list _ => "list"
  | .table _ => "dict"

/-- The name of a kind of setting where a path is wanted. -/
def kindForPath : Setting → String
  | .moment value => value.shortKind
  | value => value.kind

/-- Does a setting stand for yes? Nothing, zero and what is empty stand for no. -/
def isSet : Setting → Bool
  | .nothing => false
  | .flag value => value
  | .whole value => value ≠ 0
  | .fractional value => !value.isZero
  | .text value => value ≠ ""
  | .unpaired points => !points.isEmpty
  | .moment _ => true
  | .list items => !items.isEmpty
  | .table entries => !entries.isEmpty

mutual

/-- A setting inside a list or table, as text. A number that is too long has none. -/
def shown? : Setting → Option String
  | .nothing => some "None"
  | .flag true => some "True"
  | .flag false => some "False"
  | .whole value => Text.writeInteger? value
  | .fractional value => some value.text
  | .text value => some (Text.quoted value)
  | .unpaired points => some (Text.quotedPoints points)
  | .moment value => some value.shown
  | .list items => (shownItems? items).map fun texts => "[" ++ ", ".intercalate texts ++ "]"
  | .table entries =>
    (shownEntries? entries).map fun texts => "\x7b" ++ ", ".intercalate texts ++ "\x7d"

def shownItems? : List Setting → Option (List String)
  | [] => some []
  | item :: rest => do return (← item.shown?) :: (← shownItems? rest)

def shownEntries? : List (String × Setting) → Option (List String)
  | [] => some []
  | (name, value) :: rest => do
    return (Text.quoted name ++ ": " ++ (← value.shown?)) :: (← shownEntries? rest)

end

/-- The setting that a text of code points is. -/
def ofPoints (points : Text.Points) : Setting :=
  match Text.plain? points with
  | some chars => .text (String.ofList chars)
  | none => .unpaired points

def asText : Setting → Except SettingFault String
  | .text value => .ok value
  | .unpaired points => .error (.unpaired (Text.firstSurrogates points))
  | .moment value =>
    match value.text? with
    | some shown => .ok shown
    | none => .error .farZone
  | value =>
    match value.shown? with
    | some shown => .ok shown
    | none => .error .unwritable

/-- The whole number of a setting, which may be given as such, as a yes or no, or as a text that
spells it. -/
def asNumber : Setting → Except SettingFault Int
  | .flag true => .ok 1
  | .flag false => .ok 0
  | .whole value => .ok value
  | .fractional value => value.whole.mapError .notWhole
  | .text value =>
    match Text.readInteger value with
    | .ok number => .ok number
    | .error .noNumber => .error (.badNumber (Text.quoted value))
    | .error (.tooLong digits) => .error (.longNumber digits)
  | .unpaired points => .error (.badNumber (Text.quotedPoints points))
  | value => .error (.notNumber value.kind)

def asTable : Setting → Except SettingFault Settings
  | .table entries => .ok entries
  | value => .error (.notTable value.kind)

end Setting

/-- The setting with a name, or another one when there is none. -/
def Settings.get (settings : Settings) (name : String) (otherwise : Setting) : Setting :=
  (settings.lookup name).getD otherwise

/-- The settings in a section. A section that is not given is empty. -/
def Settings.inSection (settings : Settings) (name : String) : Except SettingFault Settings :=
  (settings.get name (.table [])).asTable

end KeyBindings
