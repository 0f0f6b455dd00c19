import KeyBindings.Text.Classes

/-!
# UTF-8

A character is one to four octets. `encode` writes it and `char?` reads one that fills a
whole list of octets. Reading a text of unknown quality is `decodeLossy`, which puts the
replacement character for every part that cannot be continued to a character, and
`decode`, which stops at the first such part and says where and why.
-/
namespace KeyBindings.Text.Utf8

/-- Numbers below 256. -/
abbrev Octets := List Nat

/-- How many octets a character takes that starts with this one, and none when no character
starts so: continuation octets, overlong forms and values above U+10FFFF have no lead. -/
def sequenceLength (lead : Int) : Nat :=
  if lead < 0x80 then 1
  else if 0xC2 ≤ lead ∧ lead ≤ 0xDF then 2
  else if 0xE0 ≤ lead ∧ lead ≤ 0xEF then 3
  else if 0xF0 ≤ lead ∧ lead ≤ 0xF4 then 4
  else 0

/-- The octets of a code point. -/
def encodePoint (point : Nat) : Octets :=
  if point < 0x80 then [point]
  else if point < 0x800 then [0xC0 + point / 0x40, 0x80 + point % 0x40]
  else if point < 0x10000 then
    [0xE0 + point / 0x1000, 0x80 + point / 0x40 % 0x40, 0x80 + point % 0x40]
  else
    [0xF0 + point / 0x40000, 0x80 + point / 0x1000 % 0x40, 0x80 + point / 0x40 % 0x40,
     0x80 + point % 0x40]

def encodeChar (c : Char) : Octets := encodePoint c.toNat

def encode (text : String) : Octets := text.toList.flatMap encodeChar

/-- Can the octet stand second after this lead? The bounds keep out overlong forms, surrogates
and values above U+10FFFF. -/
def isSecond (lead octet : Nat) : Bool :=
  if lead = 0xE0 then 0xA0 ≤ octet && octet ≤ 0xBF
  else if lead = 0xED then 0x80 ≤ octet && octet ≤ 0x9F
  else if lead = 0xF0 then 0x90 ≤ octet && octet ≤ 0xBF
  else if lead = 0xF4 then 0x80 ≤ octet && octet ≤ 0x8F
  else 0x80 ≤ octet && octet ≤ 0xBF

/-- Can the octet stand third or fourth? -/
def isContinuation (octet : Nat) : Bool := 0x80 ≤ octet && octet ≤ 0xBF

/-- Why a part of the octets is no character. -/
inductive Fault where
  | lead
  | continuation
  | cutOff
  deriving DecidableEq, Repr

def Fault.text : Fault → String
  | .lead => "invalid start byte"
  | .continuation => "invalid continuation byte"
  | .cutOff => "unexpected end of data"

/-- What stands at the start of a list of octets: nothing, a character with what follows it,
or some octets that are none. -/
inductive Head where
  | done
  | char (c : Char) (rest : Octets)
  | bad (count : Nat) (fault : Fault) (rest : Octets)
  deriving Repr

/-- Read the first character. -/
def head : Octets → Head
  | [] => .done
  | a :: rest =>
    if a < 0x80 then .char (Char.ofNat a) rest
    else match sequenceLength a, rest with
      | 0, _ => .bad 1 .lead rest
      | 1, _ => .bad 1 .lead rest
      | _, [] => .bad 1 .cutOff []
      | 2, b :: rest =>
        if isSecond a b then .char (Char.ofNat ((a - 0xC0) * 0x40 + (b - 0x80))) rest
        else .bad 1 .continuation (b :: rest)
      | 3, b :: rest =>
        if isSecond a b then
          match rest with
          | [] => .bad 2 .cutOff []
          | c :: rest =>
            if isContinuation c then
              .char (Char.ofNat ((a - 0xE0) * 0x1000 + (b - 0x80) * 0x40 + (c - 0x80))) rest
            else .bad 2 .continuation (c :: rest)
        else .bad 1 .continuation (b :: rest)
      | _, b :: rest =>
        if isSecond a b then
          match rest with
          | [] => .bad 2 .cutOff []
          | c :: rest =>
            if isContinuation c then
              match rest with
              | [] => .bad 3 .cutOff []
              | d :: rest =>
                if isContinuation d then
                  .char (Char.ofNat ((a - 0xF0) * 0x40000 + (b - 0x80) * 0x1000 +
                    (c - 0x80) * 0x40 + (d - 0x80))) rest
                else .bad 3 .continuation (d :: rest)
            else .bad 2 .continuation (c :: rest)
        else .bad 1 .continuation (b :: rest)

/-- Every step takes at least one octet. -/
theorem head_char_length (octets rest : Octets) (c : Char)
    (read : head octets = .char c rest) : rest.length < octets.length := by
  unfold head at read
  split at read
  · simp at read
  · repeat' split at read
    all_goals (try simp only [Head.char.injEq, reduceCtorEq] at read)
    all_goals (try obtain ⟨_, rfl⟩ := read)
    all_goals simp_all
    all_goals omega

theorem head_bad_length (octets rest : Octets) (count : Nat) (fault : Fault)
    (read : head octets = .bad count fault rest) : rest.length < octets.length := by
  unfold head at read
  split at read
  · simp at read
  · repeat' split at read
    all_goals (try simp only [Head.bad.injEq, reduceCtorEq] at read)
    all_goals (try obtain ⟨_, _, rfl⟩ := read)
    all_goals simp_all
    all_goals omega

/-- The character that fills the whole list, if one does. -/
def char? (octets : Octets) : Option Char :=
  match head octets with
  | .char c [] => some c
  | _ => none

/-- The character that stands for octets that are none. -/
def replacement : Char := '\uFFFD'

/-- Read a text, with the replacement character for what is none. -/
def decodeLossyChars (octets : Octets) : List Char :=
  match _read : head octets with
  | .done => []
  | .char c rest => c :: decodeLossyChars rest
  | .bad _ _ rest => replacement :: decodeLossyChars rest
termination_by octets.length
decreasing_by
  · exact head_char_length _ _ _ _read
  · exact head_bad_length _ _ _ _ _read

def decodeLossy (octets : Octets) : String := String.ofList (decodeLossyChars octets)

/-- The first octets of a text that are no character. -/
structure DecodeError where
  lead : Nat
  position : Nat
  count : Nat
  fault : Fault
  deriving DecidableEq, Repr

/-- An octet as two hexadecimal digits. -/
def octetText (octet : Nat) : String := "0x" ++ String.ofList (hexDigits 2 octet)

def DecodeError.message (error : DecodeError) : String :=
  let place :=
    if error.count = 1 then s!"byte {octetText error.lead} in position {error.position}"
    else s!"bytes in position {error.position}-{error.position + error.count - 1}"
  s!"'utf-8' codec can't decode {place}: {error.fault.text}"

/-- Read the end of a text of `whole` octets that must all be of characters. -/
def decodeFrom (whole : Nat) (octets : Octets) : Except DecodeError (List Char) :=
  match _read : head octets with
  | .done => .ok []
  | .char c rest => (decodeFrom whole rest).map (c :: ·)
  | .bad count fault _ => .error ⟨octets.headD 0, whole - octets.length, count, fault⟩
termination_by octets.length
decreasing_by exact head_char_length _ _ _ _read

/-- Read a text whose octets must all be of characters. -/
def decodeChars (octets : Octets) : Except DecodeError (List Char) :=
  decodeFrom octets.length octets

def decode (octets : Octets) : Except DecodeError String :=
  (decodeChars octets).map String.ofList

end KeyBindings.Text.Utf8
