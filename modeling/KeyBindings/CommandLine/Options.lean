import KeyBindings.Text.Classes
import KeyBindings.Text.Quoted

/-!
# Command line options

The program has five options, three of which exclude each other. A long option may be
shortened as long as it stays the only one that starts so, and its argument may follow it or
stand after an equals sign. Arguments that belong to no option are an error, but only when
no option before has shown the help or the version.
-/
namespace KeyBindings.CommandLine

inductive Choice where
  | help
  | version
  | dumpDefaults
  | check
  | debugKeys
  deriving DecidableEq, Repr

namespace Choice

/-- The spellings of an option. -/
def spellings : Choice → List String
  | .help => ["-h", "--help"]
  | .version => ["--version"]
  | .dumpDefaults => ["--dump-defaults"]
  | .check => ["--check"]
  | .debugKeys => ["--debug-keys"]

def all : List Choice := [.help, .version, .dumpDefaults, .check, .debugKeys]

def bySpelling : List (String × Choice) :=
  all.flatMap fun choice => choice.spellings.map fun spelling => (spelling, choice)

/-- An option with all its spellings, as errors name it. -/
def shown (choice : Choice) : String := "/".intercalate choice.spellings

def takesArgument : Choice → Bool
  | .dumpDefaults => true
  | .check => true
  | _ => false

/-- The options that say what the program does. Only one of them may be given. -/
def isMode : Choice → Bool
  | .dumpDefaults => true
  | .check => true
  | .debugKeys => true
  | _ => false

end Choice

/-- What the program is to do. -/
inductive Mode where
  | test
  | debugKeys
  | dumpDefaults (path : String)
  | check (path : String)
  deriving DecidableEq, Repr

/-- Why the arguments are refused. -/
inductive UsageError where
  | ambiguous (argument : String) (spellings : List String)
  | needsArgument (choice : Choice)
  | strayArgument (choice : Choice) (argument : String)
  | excluded (choice other : Choice)
  | unrecognized (arguments : List String)
  deriving DecidableEq, Repr

def UsageError.message : UsageError → String
  | .ambiguous argument spellings =>
    s!"ambiguous option: {argument} could match " ++ ", ".intercalate spellings
  | .needsArgument choice => s!"argument {choice.shown}: expected one argument"
  | .strayArgument choice argument =>
    s!"argument {choice.shown}: ignored explicit argument " ++ Text.quoted argument
  | .excluded choice other =>
    s!"argument {choice.shown}: not allowed with argument {other.shown}"
  | .unrecognized arguments => "unrecognized arguments: " ++ " ".intercalate arguments

/-- What stands in an argument. An option may bring its own argument, after an equals sign
or right behind its letter. -/
inductive Token where
  | plain
  | separator
  | unknownOption
  | option (choice : Choice) (long : Bool) (argument : Option String)
  deriving DecidableEq, Repr

/-- A text cut at its first equals sign. -/
def cutAtEquals (text : List Char) : List Char × Option String :=
  match text.dropWhile (· ≠ '=') with
  | _ :: rest => (text.takeWhile (· ≠ '='), some (String.ofList rest))
  | [] => (text, none)

/-- Are there digits and nothing else, save a line feed at the end? -/
def isDigits (text : List Char) : Bool :=
  match text.span fun c => (Text.digitValue? c).isSome with
  | ([], _) => false
  | (_, rest) => rest = [] || rest = ['\n']

/-- Is the text a negative number? A line feed may follow it. -/
def isNegativeNumber (text : List Char) : Bool :=
  match text with
  | '-' :: rest =>
    match rest.dropWhile fun c => (Text.digitValue? c).isSome with
    | '.' :: places => isDigits places
    | _ => isDigits rest
  | _ => false

/-- The options that an argument may be short for. -/
def candidates (argument : List Char) : List (String × Token) :=
  match argument with
  | '-' :: '-' :: _ =>
    let (start, value) := cutAtEquals argument
    (Choice.bySpelling.filter fun (spelling, _) => start.isPrefixOf spelling.toList).map
      fun (spelling, choice) => (spelling, .option choice true value)
  | '-' :: letter :: rest =>
    (Choice.bySpelling.filter fun (spelling, _) => spelling.toList == ['-', letter]).map
      fun (spelling, choice) => (spelling, .option choice false (some (String.ofList rest)))
  | _ => []

/-- What stands in an argument before the separator. -/
def classify (argument : String) : Except UsageError Token :=
  let chars := argument.toList
  if chars.head? ≠ some '-' then .ok .plain
  else match Choice.bySpelling.lookup argument with
    | some choice => .ok (.option choice (argument.startsWith "--") none)
    | none =>
      if chars.length = 1 then .ok .plain
      else
        let (start, value) := cutAtEquals chars
        match value, Choice.bySpelling.lookup (String.ofList start) with
        | some value, some choice =>
          .ok (.option choice ("--".toList.isPrefixOf start) (some value))
        | _, _ =>
          match candidates chars with
          | [] =>
            if isNegativeNumber chars || chars.contains ' ' then .ok .plain else .ok .unknownOption
          | [(_, token)] => .ok token
          | many => .error (.ambiguous argument (many.map (·.1)))

/-- What stands in all arguments. Behind a separator everything is plain. -/
def classifyAll : List String → Except UsageError (List (String × Token))
  | [] => .ok []
  | "--" :: rest => .ok (("--", .separator) :: rest.map fun argument => (argument, .plain))
  | argument :: rest => do
    let token ← classify argument
    let tokens ← classifyAll rest
    return (argument, token) :: tokens

/-- What the arguments ask for. -/
inductive Request where
  | showHelp
  | showVersion
  | run (mode : Mode)
  deriving DecidableEq, Repr

/-- What was read of the arguments so far: the mode, and arguments without an option. -/
structure Progress where
  mode : Mode := .test
  given : Option Choice := none
  extras : List String := []

/-- Take a mode. -/
def Progress.choose (progress : Progress) (choice : Choice) (mode : Mode) :
    Except UsageError Progress :=
  match progress.given with
  | some other =>
    if other = choice then .ok { progress with mode } else .error (.excluded choice other)
  | none => .ok { progress with mode, given := some choice }

/-- The mode of an option that takes an argument. Two dashes name no file. -/
def modeWith (choice : Choice) (argument : String) : Mode :=
  if argument = "--" then .test
  else match choice with
    | .dumpDefaults => .dumpDefaults argument
    | .check => .check argument
    | _ => .test

/-- Carry out an option without an argument: it shows something, or chooses a mode. -/
def plainOption (progress : Progress) (choice : Choice) : Except UsageError (Progress ⊕ Request) :=
  match choice with
  | .help => .ok (.inr .showHelp)
  | .version => .ok (.inr .showVersion)
  | .debugKeys => (progress.choose .debugKeys .debugKeys).map .inl
  | _ => .error (.needsArgument choice)

/-- The letters behind a short option must be short options themselves, and there must be one.
The only short option asks for help. -/
def shortOptions (choice : Choice) (letters : String) : Except UsageError Request :=
  let left := letters.toList.dropWhile (· = 'h')
  if letters ≠ "" && left.isEmpty then .ok .showHelp
  else .error (.strayArgument choice (String.ofList left))

/-- Carry out the arguments one after the other. -/
def carryOut (progress : Progress) : List (String × Token) → Except UsageError Request
  | [] =>
    if progress.extras.isEmpty then .ok (.run progress.mode)
    else .error (.unrecognized progress.extras)
  | (_, .option choice long value) :: rest =>
    match value, long with
    | none, _ =>
      if choice.takesArgument then
        match rest with
        -- The argument stands in the next place, unless that is an option itself.
        | (next, .plain) :: rest => do
          let progress ← progress.choose choice (modeWith choice next)
          carryOut progress rest
        | _ => .error (.needsArgument choice)
      else do
        match ← plainOption progress choice with
        | .inl progress => carryOut progress rest
        | .inr request => .ok request
    | some value, true =>
      if choice.takesArgument then do
        let progress ← progress.choose choice (modeWith choice value)
        carryOut progress rest
      else .error (.strayArgument choice value)
    -- Further letters behind a short option are options of their own.
    | some letters, false => shortOptions choice letters
  -- What is no option is only complained of at the end.
  | (argument, _) :: rest =>
    carryOut { progress with extras := progress.extras ++ [argument] } rest

def read (arguments : List String) : Except UsageError Request := do
  carryOut {} (← classifyAll arguments)

end KeyBindings.CommandLine
