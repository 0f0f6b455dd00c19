import KeyBindings.Command
import KeyBindings.Journal.Record

/-!
# Dispatching commands

A program registers a handler for each action that it can carry out. A handler works on the
state of the program and says whether it changed anything. One that fails is noted, and the
program goes on.
-/
namespace KeyBindings

inductive Reply where
  | changed
  | unchanged
  | failed
  deriving DecidableEq, Repr

/-- Carries out a command on a state. -/
abbrev Handler (σ : Type) := Command → σ → Reply × σ

/-- The handlers of a program. The first one that is listed for an action counts. -/
abbrev Handlers (σ : Type) := List (Action × Handler σ)

namespace Handlers

variable {σ : Type}

/-- Register a handler, in place of the one before it. -/
def bind (handlers : Handlers σ) (action : Action) (handler : Handler σ) : Handlers σ :=
  (action, handler) :: handlers.filter fun entry => entry.1 ≠ action

/-- The handler of a command, when its key is bound to an action that has one. -/
def find? (handlers : Handlers σ) (command : Command) : Option (Handler σ) :=
  match command.meaning with
  | .action action => handlers.lookup action
  | .resize => none
  | .unbound => none

end Handlers

/-- What came of a command: whether anything changed, the state, and what was noted. -/
structure Dispatched (σ : Type) where
  changed : Bool
  state : σ
  records : List Journal.Record

/-- What is noted about a reply. -/
def Reply.records (reply : Reply) (action : Action) : List Journal.Record :=
  match reply with
  | .failed =>
    [⟨.error, Journal.root,
      s!"Action handler for {action.label} failed. This should be investigated."⟩]
  | _ => []

/-- Carry out a command. Nothing happens without a handler for it. -/
def Handlers.dispatch {σ : Type} (handlers : Handlers σ) (command : Command) (state : σ) :
    Dispatched σ :=
  match command.meaning, handlers.find? command with
  | .action action, some handler =>
    let (reply, state) := handler command state
    ⟨reply = .changed, state, reply.records action⟩
  | _, _ => ⟨false, state, []⟩

/-- What came of some commands: for each whether anything changed, the state, and what was
noted. -/
structure DispatchedAll (σ : Type) where
  changes : List (Option Bool)
  state : σ
  records : List Journal.Record

/-- Carry out what was read, one after the other. Where no command was read there is nothing to
carry out. -/
def Handlers.dispatchAll {σ : Type} (handlers : Handlers σ) (commands : List (Option Command))
    (state : σ) : DispatchedAll σ :=
  commands.foldl (fun done command =>
    match command with
    | none => { done with changes := done.changes ++ [none] }
    | some command =>
      let dispatched := handlers.dispatch command done.state
      ⟨done.changes ++ [some dispatched.changed], dispatched.state,
        done.records ++ dispatched.records⟩) ⟨[], state, []⟩

end KeyBindings
