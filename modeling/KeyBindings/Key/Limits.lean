import KeyBindings.Text.Integer

/-!
# The ranges of key codes

A key code is a number. One-octet characters have the codes 1 to 127, the pseudo-keys of the
terminal (arrows, function keys, a resize) those from `keyMin` up to and without `keyMax`,
and every other character its code point shifted by `keyMax`. The range of a code alone says
how it is named and stored.
-/
namespace KeyBindings

/-- The three kinds of key code. -/
inductive KeyRange where
  | ordinary
  | pseudo
  | extended
  deriving DecidableEq, Repr

def KeyRange.name : KeyRange → String
  | .ordinary => "ordinary"
  | .pseudo => "pseudo"
  | .extended => "extended"

/-- What is wrong with a number that is no key code. -/
inductive CodeFault where
  | invalid (code : Int)
  /-- The number has too many digits for the message that is to name it. -/
  | unwritable
  deriving DecidableEq, Repr

def CodeFault.message : CodeFault → String
  | .invalid code => s!"Invalid key code: {code}"
  | .unwritable => Text.unwritableMessage

def CodeFault.of (code : Int) : CodeFault :=
  if (Text.writeInteger? code).isSome then .invalid code else .unwritable

def ordinaryMax : Int := 127

/-- Is the number a Unicode scalar value? Surrogates are none. -/
def isScalar (point : Int) : Bool :=
  (0 ≤ point && point < 0xD800) || (0xE000 ≤ point && point ≤ 0x10FFFF)

/-- Where the pseudo-keys begin and where the extended codes begin. -/
structure Limits where
  keyMin : Int := 257
  keyMax : Int := 511
  deriving DecidableEq, Repr

namespace Limits

/-- The range of a code, or nothing when the number is no key code. -/
def classify? (limits : Limits) (code : Int) : Option KeyRange :=
  if 1 ≤ code ∧ code ≤ ordinaryMax then some .ordinary
  else if limits.keyMin ≤ code ∧ code < limits.keyMax then some .pseudo
  else if limits.keyMax ≤ code ∧ isScalar (code - limits.keyMax) then some .extended
  else none

/-- The range of a code, or what is wrong with a number that has none. -/
def classify (limits : Limits) (code : Int) : Except CodeFault KeyRange :=
  match limits.classify? code with
  | some range => .ok range
  | none => .error (.of code)

def isValid (limits : Limits) (code : Int) : Bool := (limits.classify? code).isSome

/-- Codes below zero count back from the end of the pseudo-keys, so that two codes can stand
for one key when `keyMin` is negative. -/
def slot (limits : Limits) (code : Int) : Int :=
  if code < 0 then code + limits.keyMax else code

/-- Does every question about the code fail? -/
def isUnwritable (limits : Limits) (code : Int) : Bool :=
  match limits.classify code with
  | .error .unwritable => true
  | _ => false

/-- Is there a place for this code among the named keys? -/
def hasSlot (limits : Limits) (code : Int) : Bool :=
  -limits.keyMax ≤ code && code < limits.keyMax

/-- The code of a character outside the ordinary range. -/
def extendedCode (limits : Limits) (c : Char) : Int := c.toNat + limits.keyMax

def ordinaryCodes : List Int := (List.range 127).map fun (n : Nat) => (n : Int) + 1

def pseudoCodes (limits : Limits) : List Int :=
  (List.range (limits.keyMax - limits.keyMin).toNat).map fun (n : Nat) => limits.keyMin + n

/-- The codes in the order in which a name is looked up. -/
def scanOrder (limits : Limits) : List Int := ordinaryCodes ++ limits.pseudoCodes

end Limits

end KeyBindings
