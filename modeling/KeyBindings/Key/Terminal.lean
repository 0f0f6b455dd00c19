import KeyBindings.Key.Limits

/-!
# What the terminal calls its keys

A keyboard asks the terminal once for the name of every ordinary and pseudo code. The
terminal may know no name, may refuse the question, or may break down.
-/
namespace KeyBindings

inductive NameAnswer where
  | unnamed
  | text (name : String)
  | number (value : Int)
  | octets (values : List Nat)
  | refused
  | brokenDown
  deriving DecidableEq, Repr

/-- The name in an answer, empty when there is none. Octets are read as ASCII, and one that
is not becomes the replacement character. -/
def NameAnswer.name : NameAnswer → String
  | .unnamed => ""
  | .text name => name
  | .number value => toString value
  | .octets values =>
    String.ofList (values.map fun octet => if octet < 0x80 then Char.ofNat octet else '\uFFFD')
  | .refused => ""
  | .brokenDown => ""

/-- A terminal, by its answers. -/
abbrev Terminal := Int → NameAnswer

namespace Terminal

/-- The pseudo-keys from code 257 on that have no number in their name. -/
def namesBelowFunctionKeys : List String :=
  ["KEY_BREAK", "KEY_DOWN", "KEY_UP", "KEY_LEFT", "KEY_RIGHT", "KEY_HOME", "KEY_BACKSPACE"]

/-- The pseudo-keys from code 328 on, after the 64 function keys. -/
def namesAboveFunctionKeys : Array String :=
  #["KEY_DL", "KEY_IL", "KEY_DC", "KEY_IC", "KEY_EIC", "KEY_CLEAR", "KEY_EOS", "KEY_EOL",
    "KEY_SF", "KEY_SR", "KEY_NPAGE", "KEY_PPAGE", "KEY_STAB", "KEY_CTAB", "KEY_CATAB",
    "KEY_ENTER", "KEY_SRESET", "KEY_RESET", "KEY_PRINT", "KEY_LL", "KEY_A1", "KEY_A3",
    "KEY_B2", "KEY_C1", "KEY_C3", "KEY_BTAB", "KEY_BEG", "KEY_CANCEL", "KEY_CLOSE",
    "KEY_COMMAND", "KEY_COPY", "KEY_CREATE", "KEY_END", "KEY_EXIT", "KEY_FIND", "KEY_HELP",
    "KEY_MARK", "KEY_MESSAGE", "KEY_MOVE", "KEY_NEXT", "KEY_OPEN", "KEY_OPTIONS",
    "KEY_PREVIOUS", "KEY_REDO", "KEY_REFERENCE", "KEY_REFRESH", "KEY_REPLACE", "KEY_RESTART",
    "KEY_RESUME", "KEY_SAVE", "KEY_SBEG", "KEY_SCANCEL", "KEY_SCOMMAND", "KEY_SCOPY",
    "KEY_SCREATE", "KEY_SDC", "KEY_SDL", "KEY_SELECT", "KEY_SEND", "KEY_SEOL", "KEY_SEXIT",
    "KEY_SFIND", "KEY_SHELP", "KEY_SHOME", "KEY_SIC", "KEY_SLEFT", "KEY_SMESSAGE", "KEY_SMOVE",
    "KEY_SNEXT", "KEY_SOPTIONS", "KEY_SPREVIOUS", "KEY_SPRINT", "KEY_SREDO", "KEY_SREPLACE",
    "KEY_SRIGHT", "KEY_SRSUME", "KEY_SSAVE", "KEY_SSUSPEND", "KEY_SUNDO", "KEY_SUSPEND",
    "KEY_UNDO", "KEY_MOUSE", "KEY_RESIZE"]

/-- The usual name of a code: a caret form for a control character, the character itself, or
the name of the pseudo-key. Codes without a name have the empty one. -/
def usualName (code : Int) : String :=
  if code < 0 then ""
  else
    let n := code.toNat
    if n < 32 then String.ofList ['^', Char.ofNat (n + 64)]
    else if n < 127 then String.singleton (Char.ofNat n)
    else if n = 127 then "^?"
    else if n < 257 then ""
    else if n < 264 then namesBelowFunctionKeys.getD (n - 257) ""
    else if n < 328 then "KEY_F" ++ toString (n - 264)
    else namesAboveFunctionKeys.getD (n - 328) ""

/-- A terminal that gives every key its usual name. -/
def usual : Terminal := fun code => .text (usualName code)

/-- A terminal that refuses every question, as before its screen is set up. -/
def closed : Terminal := fun _ => .refused

/-- A terminal that knows no names. -/
def nameless : Terminal := fun _ => .unnamed

/-- A terminal with other answers for some codes. -/
def answering (terminal : Terminal) (answers : List (Int × NameAnswer)) : Terminal :=
  fun code => (answers.lookup code).getD (terminal code)

end Terminal

end KeyBindings
