import KeyBindings.Binding.Table

/-!
# Calls of the reverse map

Everything that the reverse map can be asked or told, as data, and what it answers. A number that is
no key code is refused, and the map stays as it is. Whatever is asked about a number, its range is
looked at first, so that a number which cannot be written is refused by every call.
-/
namespace KeyBindings.ReverseMap

inductive Call where
  | set (code : Int) (action : Action)
  | get (code : Int)
  | discard (code : Int)
  | clear
  | contains (code : Int)
  | size
  | items
  deriving DecidableEq, Repr

inductive Answer where
  | done
  | refused (fault : CodeFault)
  | owner (owner : Option Action)
  | held (held : Bool)
  | number (size : Nat)
  | entries (entries : List (Int × Action))
  deriving DecidableEq, Repr

/-- The number that a call is about. -/
def Call.code? : Call → Option Int
  | .set code _ | .get code | .discard code | .contains code => some code
  | .clear | .size | .items => none

/-- The map after a call whose number, if it has one, can be written, and the answer. -/
def respond (map : ReverseMap) (limits : Limits) : Call → ReverseMap × Answer
  | .set code action =>
    match map.set? limits code action with
    | some after => (after, .done)
    | none => (map, .refused (.invalid code))
  | .get code => (map, .owner (map.get? limits code))
  | .discard code => (map.discard limits code, .done)
  | .clear => ({}, .done)
  | .contains code => (map, .held (map.contains limits code))
  | .size => (map, .number map.size)
  | .items => (map, .entries map.items)

def call (map : ReverseMap) (limits : Limits) (call : Call) : ReverseMap × Answer :=
  if call.code?.any limits.isUnwritable then (map, .refused .unwritable) else map.respond limits call

def callAll (map : ReverseMap) (limits : Limits) (calls : List Call) : ReverseMap :=
  calls.foldl (fun map call => (map.call limits call).1) map

/-- The answers to some calls, one after the other. -/
def answers (map : ReverseMap) (limits : Limits) : List Call → List Answer
  | [] => []
  | call :: rest => (map.call limits call).2 :: (map.call limits call).1.answers limits rest

end KeyBindings.ReverseMap
