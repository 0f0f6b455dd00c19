import KeyBindings.Proofs.Command.Typing
import KeyBindings.Tester
import Mathlib.Algebra.GroupWithZero.Nat

/-!
# The turns of the tester

What the tester reads hangs on its keys and on the events alone, not on what it drew or carried out.
So the events fall into turns: each takes the events of one command, or those up to a moment without
input. A run draws a frame before every turn and plays the turns until one of them ends it: a command
to quit, or one with a count that the next frame cannot show.
-/
namespace KeyBindings.Tester

/-! ### Turns -/

/-- What is read between two frames: a command, unless the input ran dry, the events that were taken
for it and those that are left. -/
structure Turn where
  command : Option Command
  taken : List Event
  rest : List Event
  deriving DecidableEq, Repr

/-- The first turn of some events, unless they end before it is over. -/
def nextTurn? (binder : Binder) (events : List Event) : Option Turn :=
  let reading := binder.readCommand true (Event.script events)
  (Event.cut? events reading.rest).map fun parts => ⟨reading.command, parts.1, parts.2⟩

section

variable {binder : Binder} {events : List Event} {turn : Turn}

theorem nextTurn?_length (next : nextTurn? binder events = some turn) :
    turn.rest.length < events.length := by
  have shorter := Command.read_length binder.limits binder.table.lookup true _
    (Event.script_ne_nil events)
  obtain ⟨⟨taken, rest⟩, parts, rfl⟩ := Option.map_eq_some_iff.mp next
  exact Event.cut?_length events taken rest _ shorter parts

theorem nextTurn?_events (next : nextTurn? binder events = some turn) :
    turn.taken ++ turn.rest = events := by
  obtain ⟨⟨taken, rest⟩, parts, rfl⟩ := Option.map_eq_some_iff.mp next
  unfold Event.cut? at parts
  split at parts
  next => cases parts
  next unread after left =>
    rw [List.splitAt_eq] at parts
    cases parts
    exact List.take_append_drop _ events

end

def turns (binder : Binder) (events : List Event) : List Turn :=
  match _next : nextTurn? binder events with
  | none => []
  | some turn => turn :: turns binder turn.rest
termination_by events.length
decreasing_by exact nextTurn?_length _next

theorem turns_none {binder : Binder} {events : List Event} (dry : nextTurn? binder events = none) :
    turns binder events = [] := by
  rw [turns]
  split
  next => rfl
  next turn next => exact absurd (dry.symm.trans next) (by simp)

theorem turns_some {binder : Binder} {events : List Event} {turn : Turn}
    (next : nextTurn? binder events = some turn) :
    turns binder events = turn :: turns binder turn.rest := by
  rw [turns]
  split
  next dry => exact absurd (dry.symm.trans next) (by simp)
  next other found =>
    obtain rfl := Option.some.inj (next.symm.trans found)
    rfl

theorem nextTurn?_nil (binder : Binder) : nextTurn? binder [] = none := by
  have shorter := Command.read_length binder.limits binder.table.lookup true _
    (Event.script_ne_nil [])
  have unread : (binder.readCommand true (Event.script [])).rest = [] := by
    apply List.eq_nil_of_length_eq_zero
    exact Nat.lt_one_iff.mp shorter
  simp only [nextTurn?, unread, Event.cut?, Option.map_none]

namespace Turn

/-- What the key of the command stands for. -/
def meaning? (turn : Turn) : Option Meaning := turn.command.map Command.meaning

def Quits (turn : Turn) : Prop := turn.meaning? = some (.action .quit)

def Resizes (turn : Turn) : Prop := turn.meaning? = some .resize

/-- The count of the command, if there is one, is short enough to be written. -/
def Showable (turn : Turn) : Prop :=
  ∀ command ∈ turn.command, command.count.natAbs < 10 ^ Text.digitLimit

/-- By how many pages the legend is to be turned. -/
def pagesTurned (turn : Turn) : Int :=
  match turn.command with
  | some command => if command.meaning = .action .otherCommands then command.count else 0
  | none => 0

/-- The tester plays on behind the turn. -/
def Continues (turn : Turn) : Prop := ¬ turn.Quits ∧ turn.Showable

instance (turn : Turn) : Decidable turn.Quits := inferInstanceAs (Decidable (_ = _))

instance (turn : Turn) : Decidable turn.Showable :=
  inferInstanceAs (Decidable (∀ command ∈ turn.command, _))

instance (turn : Turn) : Decidable turn.Continues := inferInstanceAs (Decidable (_ ∧ _))

/-- Unless the tester plays on behind all turns, there is a first one that it does not survive. -/
theorem continue_or_first (turns : List Turn) :
    (∀ turn ∈ turns, turn.Continues) ∨
      ∃ before turn after, turns = before ++ turn :: after ∧
        (∀ earlier ∈ before, earlier.Continues) ∧ ¬ turn.Continues := by
  cases found : turns.find? fun turn => ¬ turn.Continues with
  | none => exact .inl (by simpa using found)
  | some turn =>
    obtain ⟨stops, before, after, split, early⟩ := List.find?_eq_some_iff_append.mp found
    exact .inr ⟨before, turn, after, split, by simpa using early, by simpa using stops⟩

end Turn

/-! ### Typed turns -/

def typed (chars : List Char) : List Event := chars.map fun c => .unit (c.toNat : Int)

theorem map_toUnit_typed (chars : List Char) :
    (typed chars).map Event.toUnit = TypedCommand.charUnits chars := by
  rw [typed, List.map_map]
  apply List.map_congr_left
  intro c _
  have unit : (c.toNat : Int) ≠ -1 := by omega
  simp only [Function.comp_apply, Event.toUnit, Event.windowUnit, if_neg unit]

/-- A turn takes the events that are read for it and leaves the later ones. -/
theorem nextTurn?_append {binder : Binder} {events rest : List Event} {reading : Command.Reading}
    (read : binder.readCommand true (events.map Event.toUnit ++ Event.script rest) = reading)
    (left : reading.rest = Event.script rest) :
    nextTurn? binder (events ++ rest) = some ⟨reading.command, events, rest⟩ := by
  have whole : Event.script (events ++ rest) = events.map Event.toUnit ++ Event.script rest := by
    simp only [Event.script, List.map_append, List.append_assoc]
  have parts : Event.cut? (events ++ rest) (Event.script rest) = some (events, rest) := by
    obtain ⟨unit, after, split⟩ := List.exists_cons_of_ne_nil (Event.script_ne_nil rest)
    have size : after.length = rest.length := by
      have same := congrArg List.length split
      simpa [Event.script] using same.symm
    simp [Event.cut?, split, size]
  simp only [nextTurn?, whole, read, left, parts, Option.map_some]

theorem unambiguous_letter (count : Option Nat) (positive : ∀ value, count = some value → 1 ≤ value)
    {c : Char} (letter : 97 ≤ c.toNat ∧ c.toNat ≤ 122) :
    (⟨count, none, .char c⟩ : TypedCommand).Unambiguous := by
  constructor
  case count => exact positive
  case register => exact fun _ none => nomatch none
  case pseudo => exact fun _ other => nomatch other
  case bare =>
    intro _ other same
    obtain rfl := Keystroke.char.inj same
    -- A letter neither continues a count nor announces a register.
    rw [Char.le_def, Char.le_def, UInt32.le_iff_toNat_le, UInt32.le_iff_toNat_le]
    have noDigit : ¬ (49 ≤ c.toNat ∧ c.toNat ≤ 57) := by omega
    refine ⟨noDigit, ?_, ?_⟩
    · rintro rfl
      exact absurd letter (by decide)
    · rintro rfl
      exact absurd letter (by decide)

theorem nextTurn?_letter {binder : Binder} (usual : binder.limits = {}) (count : Option Nat)
    (positive : ∀ value, count = some value → 1 ≤ value) {c : Char}
    (letter : 97 ≤ c.toNat ∧ c.toNat ≤ 122) (rest : List Event) :
    let events := typed (count.elim [] (Nat.toDigits 10) ++ [c])
    nextTurn? binder (events ++ rest) = some
      ⟨some ⟨(binder.table.lookup c.toNat).elim .unbound .action, (count.getD 1 : Nat), 0, c.toNat⟩,
        events, rest⟩ := by
  intro events
  have unambiguous := unambiguous_letter count positive letter
  -- The typed events are the units of one command, which ends with its letter.
  have units : events.map Event.toUnit = (⟨count, none, .char c⟩ : TypedCommand).units := by
    have octet : Text.Utf8.encodeChar c = [c.toNat] := if_pos (by omega)
    rw [map_toUnit_typed]
    cases count <;>
      simp [TypedCommand.units, TypedCommand.countUnits, TypedCommand.registerUnits, Keystroke.units,
        TypedCommand.charUnits, octet]
  have code : (Keystroke.char c).code {} = c.toNat := if_pos (by omega)
  obtain ⟨read, left⟩ := TypedCommand.read_units unambiguous binder.table.lookup (Event.script rest)
  rw [TypedCommand.command, unambiguous.meaningOf_eq, code] at read
  rw [← units, ← usual] at read left
  have turn := nextTurn?_append rfl left
  rwa [Binder.readCommand, read] at turn

/-! ### Drawing -/

theorem writeLines_eq (window : Window Refusal) (lines : List String) :
    ∃ attempts calls, writeLines window lines = { window with attempts, calls } := by
  unfold writeLines
  generalize max 0 (window.width - 1) = limit
  generalize lines.zipIdx = places
  induction places generalizing window with
  | nil => exact ⟨window.attempts, window.calls, rfl⟩
  | cons place rest ih =>
    obtain ⟨attempts, calls, tail⟩ := ih (window.tryWrite (.limitedText place.2 0 place.1 limit))
    refine ⟨attempts, calls, tail.trans ?_⟩
    unfold Window.tryWrite Window.write
    split <;> rfl

variable {tester : Tester}

/-- Drawing shows the page of the legend that the tester is at and leaves the tester as it is, but for
the calls on its windows and on the terminal. -/
theorem of_draw? {drawing : Drawing} (drawn : tester.draw? = some drawing) :
    let legend := tester.binder.drawLegend tester.legend entries tester.page
    ∃ attempts calls,
      drawing.tester =
        { tester with
          screen := { tester.screen with attempts, calls := [] }
          legend := legend.window.forget
          terminal := [] } ∧
      drawing.frame =
        { screen := calls
          legend := legend.window.calls
          terminal := tester.terminal
          page := tester.page
          width := tester.legend.width
          cells := legend.cells } := by
  unfold draw? at drawn
  simp only [Option.bind_eq_bind, Option.bind_eq_some_iff] at drawn
  obtain ⟨lines, -, drawn⟩ := drawn
  cases drawn
  obtain ⟨attempts, calls, written⟩ := writeLines_eq tester.cleared lines
  rw [written]
  exact ⟨attempts, calls ++ [.refreshLater], rfl, rfl⟩

theorem isSome_draw?_iff :
    tester.draw?.isSome ↔
      ∀ command ∈ tester.last, command.count.natAbs < 10 ^ Text.digitLimit := by
  -- Of all that is drawn only the count may be missing.
  unfold draw? statusLines? commandLines? Text.writeInteger?
  cases tester.last with
  | none => simp
  | some command =>
    by_cases short : command.count.natAbs < 10 ^ Text.digitLimit
    · simp [short]
    · simp [short]

/-! ### Playing a turn -/

/-- A tester that has drawn, behind its next turn. -/
def after (tester : Tester) (turn : Turn) : Tester :=
  let seen := { tester with screen := Event.applyTo tester.screen turn.taken }
  match turn.command with
  | none => seen
  | some command => (seen.obey command).1

/-- What a command does. Only four meanings do more than being shown. -/
theorem obey_eq (tester : Tester) (command : Command) :
    (tester.obey command).1 =
      match command.meaning with
      | .resize =>
        renewLegend { tester with last := some command, terminal := tester.terminal ++ [.updateSize] }
      | .action .quit => { tester with last := some command, running := false }
      | .action .otherCommands =>
        { tester with last := some command, page := (tester.page + command.count) % tester.pages }
      | .action .redraw => { tester with last := some command, screen := tester.screen.call .clear }
      | _ => { tester with last := some command } := by
  obtain ⟨meaning, count, register, code⟩ := command
  cases meaning with
  | resize => rfl
  | unbound => rfl
  | action action => cases action <;> rfl

theorem after_keeps (tester : Tester) (turn : Turn) :
    (tester.after turn).binder = tester.binder ∧
      (tester.after turn).last = turn.command.or tester.last ∧
      ((tester.after turn).running = true ↔ tester.running = true ∧ ¬ turn.Quits) := by
  obtain ⟨read, taken, rest⟩ := turn
  cases read with
  | none => simp [after, Turn.Quits, Turn.meaning?]
  | some command =>
    simp only [after, obey_eq, Turn.Quits, Turn.meaning?, Option.map_some, Option.some_or]
    split
    all_goals simp_all [renewLegend]

/-! ### Runs -/

/-- How a run goes: the frames that are drawn turn by turn, the events that are left and what ends
it. -/
inductive Plays : Tester → List Event → List Frame → List Event → Ending → Prop
  | quit {tester : Tester} {events : List Event} (stopped : tester.running = false) :
    Plays tester events [] events .quit
  | unshowable {tester : Tester} {events : List Event} (running : tester.running = true)
      (hidden : tester.draw? = none) :
    Plays tester events [] events .unshowable
  | starved {tester : Tester} {events : List Event} {drawing : Drawing}
      (running : tester.running = true) (drawn : tester.draw? = some drawing)
      (dry : nextTurn? tester.binder events = none) :
    Plays tester events [drawing.frame] [] .starved
  | turn {tester : Tester} {events : List Event} {drawing : Drawing} {turn : Turn}
      {frames : List Frame} {rest : List Event} {ending : Ending}
      (running : tester.running = true) (drawn : tester.draw? = some drawing)
      (next : nextTurn? tester.binder events = some turn)
      (later : Plays (drawing.tester.after turn) turn.rest frames rest ending) :
    Plays tester events (drawing.frame :: frames) rest ending

theorem plays_run (tester : Tester) (events : List Event) :
    Plays tester events (tester.run events).frames (tester.run events).rest (tester.run events).ending := by
  -- Every turn leaves fewer events.
  induction size : events.length using Nat.strongRecOn generalizing tester events with
  | ind size ih =>
    rw [run]
    split
    case isFalse stopped => exact .quit (by simpa using stopped)
    case isTrue running =>
      split
      next hidden => exact .unshowable running hidden
      next drawing drawn =>
        split
        next command keys left read =>
          split
          next dry =>
            apply Plays.starved running drawn
            simp only [nextTurn?, read, dry, Option.map_none]
          next taken rest parts =>
            have next : nextTurn? tester.binder events = some ⟨command, taken, rest⟩ := by
              simp only [nextTurn?, read, parts, Option.map_some]
            have shorter := nextTurn?_length next
            have later := ih rest.length (size ▸ shorter) (drawing.tester.after ⟨command, taken, rest⟩)
              rest rfl
            have whole := Plays.turn running drawn next later
            cases command <;> exact whole

/-! ### How runs end -/

/-- A tester that plays on: it has not been told to quit, and what it is to show can be shown. -/
def Ready (tester : Tester) : Prop := tester.running = true ∧ tester.draw?.isSome

section

variable {drawing : Drawing} {events : List Event} {frames : List Frame} {rest : List Event}
  {ending : Ending}

theorem step_binder (drawn : tester.draw? = some drawing) (turn : Turn) :
    (drawing.tester.after turn).binder = tester.binder := by
  obtain ⟨_, _, same, -⟩ := of_draw? drawn
  rw [(after_keeps drawing.tester turn).1, same]

theorem step_running (running : tester.running = true) (drawn : tester.draw? = some drawing)
    (turn : Turn) : (drawing.tester.after turn).running = true ↔ ¬ turn.Quits := by
  obtain ⟨_, _, same, -⟩ := of_draw? drawn
  have stays : drawing.tester.running = true := by rw [same, running]
  rw [(after_keeps drawing.tester turn).2.2, stays, eq_self_iff_true, true_and]

/-- A tester that was ready is so again exactly behind a turn after which it is meant to play on. -/
theorem ready_step_iff (ready : Ready tester) (drawn : tester.draw? = some drawing) (turn : Turn) :
    Ready (drawing.tester.after turn) ↔ turn.Continues := by
  obtain ⟨running, shown⟩ := ready
  obtain ⟨_, _, same, -⟩ := of_draw? drawn
  have last := (after_keeps drawing.tester turn).2.1
  have before : drawing.tester.last = tester.last := by rw [same]
  rw [isSome_draw?_iff] at shown
  rw [Ready, step_running running drawn, isSome_draw?_iff, last, before, Turn.Continues, Turn.Showable]
  -- Without a command the tester shows the one before it, which it has shown already.
  cases turn.command with
  | none => simpa using fun _ => shown
  | some command => simp

theorem Plays.of_not_ready (plays : Plays tester events frames rest ending) (idle : ¬ Ready tester) :
    frames = [] ∧ rest = events ∧
      ending = if tester.running = true then .unshowable else .quit := by
  cases plays with
  | quit stopped => simp [stopped]
  | unshowable running hidden => simp [running]
  | starved running drawn dry => exact absurd ⟨running, by simp [drawn]⟩ idle
  | turn running drawn next later => exact absurd ⟨running, by simp [drawn]⟩ idle

/-- When the tester plays on behind all turns, it draws once more and waits for events that do not
come. -/
theorem Plays.starves (plays : Plays tester events frames rest ending) (ready : Ready tester)
    (all : ∀ turn ∈ turns tester.binder events, turn.Continues) :
    ending = .starved ∧ frames.length = (turns tester.binder events).length + 1 := by
  induction plays with
  | quit stopped => simp [Ready, stopped] at ready
  | unshowable running hidden => simp [Ready, hidden] at ready
  | starved running drawn dry => simp [turns_none dry]
  | turn running drawn next later ih =>
    rw [turns_some next, List.forall_mem_cons] at all
    rw [step_binder drawn] at ih
    obtain ⟨ends, count⟩ := ih ((ready_step_iff ready drawn _).mpr all.1) all.2
    refine ⟨ends, ?_⟩
    rw [turns_some next, List.length_cons, List.length_cons, count]

/-- The first turn that the tester does not survive ends the run, and no event behind it is taken. -/
theorem Plays.stops (plays : Plays tester events frames rest ending) (ready : Ready tester)
    {before after : List Turn} {turn : Turn}
    (split : turns tester.binder events = before ++ turn :: after)
    (early : ∀ earlier ∈ before, earlier.Continues) (stops : ¬ turn.Continues) :
    ending = (if turn.Quits then .quit else .unshowable) ∧ frames.length = before.length + 1 ∧
      (before ++ [turn]).flatMap Turn.taken ++ rest = events := by
  induction plays generalizing before with
  | quit stopped => simp [Ready, stopped] at ready
  | unshowable running hidden => simp [Ready, hidden] at ready
  | starved running drawn dry => simp [turns_none dry] at split
  | turn running drawn next later ih =>
    -- The split is either at this turn, or it is one of the later turns.
    have taken := nextTurn?_events next
    rw [turns_some next] at split
    rw [step_binder drawn] at ih
    cases before with
    | nil =>
      obtain ⟨rfl, -⟩ := List.cons.inj split
      -- The tester behind this turn is not ready any more, so its own run is over at once.
      have idle := (not_congr (ready_step_iff ready drawn _)).mpr stops
      obtain ⟨rfl, rfl, rfl⟩ := later.of_not_ready idle
      refine ⟨?_, rfl, by simpa using taken⟩
      simp only [step_running running drawn, ite_not]
    | cons first before =>
      obtain ⟨rfl, behind⟩ := List.cons.inj split
      rw [List.forall_mem_cons] at early
      obtain ⟨ends, count, whole⟩ := ih ((ready_step_iff ready drawn _).mpr early.1) behind early.2
      refine ⟨ends, by rw [List.length_cons, List.length_cons, count], ?_⟩
      rw [← taken, ← whole, List.cons_append, List.flatMap_cons, List.append_assoc]

/-- The first turn to quit ends the run unless a count before it was too long to be shown. -/
theorem Plays.quit_iff (plays : Plays tester events frames rest ending) (ready : Ready tester)
    {before after : List Turn} {turn : Turn}
    (split : turns tester.binder events = before ++ turn :: after) (quits : turn.Quits)
    (first : ∀ earlier ∈ before, ¬ earlier.Quits) :
    (ending = .quit ∧ frames.length = before.length + 1 ∧
        (before ++ [turn]).flatMap Turn.taken ++ rest = events) ↔
      ∀ earlier ∈ before, earlier.Showable := by
  constructor
  · rintro ⟨ends, -⟩
    obtain all | ⟨front, stop, back, shape, early, stops⟩ := Turn.continue_or_first before
    · exact fun earlier member => (all earlier member).2
    -- A turn before that the tester did not survive would have ended the run otherwise.
    · rw [shape, List.append_assoc, List.cons_append] at split
      obtain ⟨other, -⟩ := plays.stops ready split early stops
      rw [if_neg (first stop (by simp [shape]))] at other
      cases ends.symm.trans other
  · intro showable
    have early : ∀ earlier ∈ before, earlier.Continues := fun earlier member =>
      ⟨first earlier member, showable earlier member⟩
    have whole := plays.stops ready split early fun continues => continues.1 quits
    rwa [if_pos quits] at whole

theorem Plays.unshowable_iff (plays : Plays tester events frames rest ending) (ready : Ready tester) :
    ending = .unshowable ↔
      ∃ before turn after, turns tester.binder events = before ++ turn :: after ∧
        (∀ earlier ∈ before, earlier.Continues) ∧ ¬ turn.Quits ∧ ¬ turn.Showable ∧
        frames.length = before.length + 1 := by
  constructor
  · intro ends
    -- Either every turn goes on and the events run out, or the first that does not decides.
    obtain all | ⟨before, turn, after, split, early, stops⟩ := Turn.continue_or_first
      (turns tester.binder events)
    · cases ends.symm.trans (plays.starves ready all).1
    · obtain ⟨other, count, -⟩ := plays.stops ready split early stops
      have runs : ¬ turn.Quits := fun quits => by
        rw [if_pos quits] at other
        cases ends.symm.trans other
      exact ⟨before, turn, after, split, early, runs, fun shown => stops ⟨runs, shown⟩, count⟩
  · rintro ⟨before, turn, after, split, early, runs, hidden, -⟩
    have whole := plays.stops ready split early fun continues => hidden continues.2
    rw [whole.1, if_neg runs]

theorem Plays.quits (plays : Plays tester events frames rest ending) (ready : Ready tester)
    (ends : ending = .quit) : ∃ turn ∈ turns tester.binder events, turn.Quits := by
  obtain all | ⟨before, turn, after, split, early, stops⟩ := Turn.continue_or_first
    (turns tester.binder events)
  · cases ends.symm.trans (plays.starves ready all).1
  · refine ⟨turn, by simp [split], ?_⟩
    by_contra runs
    obtain ⟨other, -⟩ := plays.stops ready split early stops
    rw [if_neg runs] at other
    cases ends.symm.trans other

end

end KeyBindings.Tester
