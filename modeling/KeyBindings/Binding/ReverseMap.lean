import KeyBindings.Action
import KeyBindings.Key.Limits

/-!
# Who owns a key code

A partial map from valid key codes to actions. The ordinary and pseudo codes are kept in
ascending order, the extended codes in the order in which they came. Setting a code that is
there keeps its place. A number that is no key code is never in the map.
-/
namespace KeyBindings

/-- Entries with ascending codes, and entries in order of arrival. -/
structure ReverseMap where
  dense : List (Int × Action) := []
  extended : List (Int × Action) := []
  deriving DecidableEq, Repr

namespace ReverseMap

/-- Put an entry at its place among ascending codes. -/
def insertAscending (code : Int) (action : Action) : List (Int × Action) → List (Int × Action)
  | [] => [(code, action)]
  | (other, owner) :: rest =>
    if code < other then (code, action) :: (other, owner) :: rest
    else if code = other then (code, action) :: rest
    else (other, owner) :: insertAscending code action rest

/-- Change an entry where it stands, or add it at the end. -/
def insertLast (code : Int) (action : Action) : List (Int × Action) → List (Int × Action)
  | [] => [(code, action)]
  | (other, owner) :: rest =>
    if code = other then (code, action) :: rest
    else (other, owner) :: insertLast code action rest

/-- The entries for all codes but one. -/
def without (code : Int) (entries : List (Int × Action)) : List (Int × Action) :=
  entries.filter fun entry => entry.1 ≠ code

def get? (map : ReverseMap) (limits : Limits) (code : Int) : Option Action :=
  match limits.classify? code with
  | none => none
  | some .extended => map.extended.lookup code
  | some _ => map.dense.lookup (limits.slot code)

/-- Give a code to an action; nothing when the number is no key code. -/
def set? (map : ReverseMap) (limits : Limits) (code : Int) (action : Action) : Option ReverseMap :=
  match limits.classify? code with
  | none => none
  | some .extended => some { map with extended := insertLast code action map.extended }
  | some _ => some { map with dense := insertAscending (limits.slot code) action map.dense }

def discard (map : ReverseMap) (limits : Limits) (code : Int) : ReverseMap :=
  match limits.classify? code with
  | none => map
  | some .extended => { map with extended := without code map.extended }
  | some _ => { map with dense := without (limits.slot code) map.dense }

def contains (map : ReverseMap) (limits : Limits) (code : Int) : Bool :=
  (map.get? limits code).isSome

/-- All entries: the ordinary and pseudo codes, then the extended ones. -/
def items (map : ReverseMap) : List (Int × Action) := map.dense ++ map.extended

def size (map : ReverseMap) : Nat := map.items.length

end ReverseMap

end KeyBindings
