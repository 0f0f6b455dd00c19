/-!
# Key codes with a meaning of their own

The codes that the program names itself: four characters, and the pseudo-keys as the
terminal numbers them.
-/
namespace KeyBindings.KeyCode

def tab : Int := 9
def newline : Int := 10
def escape : Int := 27
def space : Int := 32

def down : Int := 258
def up : Int := 259
def left : Int := 260
def right : Int := 261
def home : Int := 262
/-- The key before `F1`; the function keys follow it in order. -/
def function (number : Nat) : Int := 264 + number
def delete : Int := 330
def insert : Int := 331
def pageDown : Int := 338
def pageUp : Int := 339
def ending : Int := 360

/-- Reported by the terminal when its window changed its size. -/
def resize : Int := 410

/-- The short names of frequent keys. They take the place of the terminal's names. -/
def shortNames : List (Int × String) :=
  [(tab, "TAB"), (newline, "RET"), (escape, "ESC"), (space, "SPC"), (up, "UP"), (down, "DWN"),
   (left, "LFT"), (right, "RGT"), (home, "HOM"), (ending, "END"), (pageDown, "PgD"),
   (pageUp, "PgU"), (insert, "INS"), (delete, "DEL")] ++
  (List.range 12).map fun (n : Nat) => (function (n + 1), "F" ++ toString (n + 1))

/-- Names that older keys files hold. -/
def formerNames : List (String × Int) := [("^J", newline), ("KEY_HOME", home), ("KEY_END", ending)]

end KeyBindings.KeyCode
