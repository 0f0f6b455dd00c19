import KeyBindings.CommandLine.Survey
import KeyBindings.Screen.Window

/-!
# Running the program

Takes the files that a run is about into a tree, runs the program on it, and carries out
what it changed. Keys are the octets of the standard input, up to its end.
-/
namespace KeyBindings.Main

open KeyBindings.CommandLine

/-- What stands at a path. -/
def look (path : String) : IO (Option Entry) := do
  try
    let content ← IO.FS.readBinFile path
    return some (.file (content.toList.map UInt8.toNat))
  catch
    | .inappropriateType _ 21 _ => return some (.folder [])
    | _ => return none

/-- Take what stands at a path and above it into the host's tree. -/
def survey (host : Host) (path : Path) : IO Host := do
  let mut tree := host.tree
  for part in withParents (path.absolute host.herePath) do
    if (tree.find? part.names).isNone then
      if let some entry ← look part.text then
        tree := tree.put part.names entry
  return { host with tree }

/-- The host that the program runs on. -/
def takeHost : IO Host := do
  let here := Path.ofText (← IO.currentDir).toString
  let mut environment := []
  for name in knownVariables do
    if let some value ← IO.getEnv name then
      environment := environment ++ [(name, value)]
  let ticks ← IO.monoNanosNow
  let host : Host := { tree := {}, here := here.names, environment, salt := toString (ticks % 100000000) }
  (settingsFiles host).foldlM survey (← survey host here)

def carryOut (change : Item) : IO Unit := do
  let path := Path.mk .root change.place
  match change.content with
  | none => IO.FS.createDirAll path.text
  | some content => IO.FS.writeBinFile path.text (content.map Nat.toUInt8).toByteArray

/-- The keys that are typed, when the program asks for any. -/
def takeEvents (arguments : List String) : IO (List Event) := do
  match read arguments with
  | .ok (.run .test) => typed
  | .ok (.run .debugKeys) => typed
  | _ => return []
where
  /-- All octets of the standard input. -/
  typed : IO (List Event) := do
    let content ← IO.FS.readBinFile "/dev/stdin"
    return content.toList.map fun octet => .unit (octet.toNat : Int)

def screen : Window Refusal := { height := 24, width := 80 }

def shown (outcome : Outcome) : String :=
  let frames := outcome.frames.map fun frame =>
    String.join (frame.screen.map (Call.picture 0)) ++
    String.join (frame.legend.map (Call.picture (screen.height - Tester.legendHeight)))
  String.join frames ++ String.join (outcome.screen.map (Call.picture 0))

/-- The status that a run ends with. -/
def statusOf : Exit → UInt32
  | .returned => 0
  | .status code => code.toUInt32
  | .stopped => 0
  | .broken _ => 1

def run (arguments : List String) : IO UInt32 := do
  let host ← takeHost
  let host ← match prepare host with
    | (work, .ok settings) => (workFiles work.host settings arguments).foldlM survey host
    | (_, .error _) => pure host
  let display : Display := { window := screen, events := ← takeEvents arguments }
  let outcome := start host {} (terminalFor arguments) display arguments
  (changes host.tree outcome.work.host.tree).forM carryOut
  IO.print (outcome.work.output ++ shown outcome)
  IO.eprint outcome.work.written.errors
  return statusOf outcome.exit

end KeyBindings.Main

def main (arguments : List String) : IO UInt32 := KeyBindings.Main.run arguments
