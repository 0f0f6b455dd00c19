import KeyBindings.Editing
import KeyBindings.Proofs.Legend.Drawing
import KeyBindings.Proofs.Legend.Paging
import KeyBindings.Proofs.Tester.Turns
import Mathlib.Algebra.Ring.Int.Defs

/-!
# The pages that the tester shows

In every frame the legend shows one of the pages that there are, and no page with less than two cells.
Between two windows of the legend the commands that turn its pages add up, modulo the number of pages.
A window is made at the start and behind every turn that reports a new size, and no other.
-/
namespace KeyBindings

def Window.size {Fault : Type} (window : Window Fault) : Int × Int := (window.height, window.width)

theorem Event.applyTo_append {Fault : Type} (window : Window Fault) (before after : List Event) :
    applyTo window (before ++ after) = applyTo (applyTo window before) after := by
  simp only [applyTo, List.foldl_append]

/-- The size behind some events hangs on nothing but the size before them. -/
theorem Event.size_applyTo {Fault : Type} {window other : Window Fault} (same : window.size = other.size)
    (events : List Event) : (applyTo window events).size = (applyTo other events).size := by
  induction events generalizing window other with
  | nil => exact same
  | cons event rest ih =>
    apply ih
    cases event with
    | resize height width => rfl
    | unit value => exact same
    | quiet => exact same

namespace Tester

variable {tester : Tester} {drawing : Drawing} {turn : Turn} {events : List Event}
  {frames : List Frame} {rest : List Event} {ending : Ending}

/-! ### What a frame shows -/

def pagesIn (binder : Binder) (width : Int) : Int := binder.grid.pageCount entries.length width

/-- A frame that shows a page of the legend: one that there is, laid out in the width of the window,
with at least two cells that are all written. -/
structure ShowsPage (binder : Binder) (frame : Frame) : Prop where
  page_nonneg : 0 ≤ frame.page
  page_lt : frame.page < pagesIn binder frame.width
  cells_eq : frame.cells = binder.grid.layout binder.table entries frame.page frame.width
  two_le_cells : 2 ≤ frame.cells.length
  legend_eq : frame.legend =
    [.erase] ++ frame.cells.flatMap (LegendGrid.wholeCalls frame.width) ++ [.refreshLater]

/-- What a run keeps: the page is one of those that there are, and the window of the legend is blank and
takes every write. -/
structure Sound (tester : Tester) : Prop where
  page_nonneg : 0 ≤ tester.page
  page_lt : tester.page < tester.pages
  fault : ∀ attempt, tester.legend.fault attempt = none
  calls : tester.legend.calls = []

theorem Sound.drawLegend_window (sound : Sound tester) :
    let drawn := tester.binder.drawLegend tester.legend entries tester.page
    ∃ attempts, drawn.window =
      { tester.legend with
        attempts
        calls := [.erase] ++ drawn.cells.flatMap (LegendGrid.wholeCalls tester.legend.width) ++
          [.refreshLater] } := by
  obtain ⟨attempts, window⟩ := LegendGrid.draw_window tester.legend tester.binder.grid
    tester.binder.table entries tester.page sound.fault
  rw [sound.calls, List.nil_append] at window
  exact ⟨attempts, window⟩

theorem Sound.showsPage (sound : Sound tester) (drawn : tester.draw? = some drawing) :
    ShowsPage tester.binder drawing.frame := by
  obtain ⟨_, _, -, shown⟩ := of_draw? drawn
  obtain ⟨_, window⟩ := sound.drawLegend_window
  rw [shown]
  constructor
  case page_nonneg => exact sound.page_nonneg
  case page_lt => exact sound.page_lt
  case cells_eq => rfl
  case two_le_cells =>
    apply LegendGrid.two_le_length_layout
    · decide
    · exact sound.page_nonneg
    · exact sound.page_lt
  case legend_eq => exact congrArg Window.calls window

/-! ### What a turn changes -/

/-- The call that makes the window of the legend for a screen of some size. -/
def creation (size : Int × Int) : TerminalCall :=
  .newWindow legendHeight size.2 (max 0 (size.1 - legendHeight)) 0

theorem sound_renewLegend (natural : 0 ≤ tester.page) : Sound (renewLegend tester) := by
  have positive := tester.binder.grid.pageCount_pos tester.screen.width entries.length
  constructor
  case page_nonneg =>
    simp only [renewLegend, pages, Binder.legendPages]
    omega
  case page_lt =>
    simp only [renewLegend, pages, Binder.legendPages]
    omega
  case fault => exact fun _ => rfl
  case calls => rfl

/-- A turn with a new size makes the window of the legend anew and goes back to its final page when
there are fewer now. -/
theorem after_resize (tester : Tester) (resizes : turn.Resizes) :
    let seen := Event.applyTo tester.screen turn.taken
    ∃ last, tester.after turn = renewLegend
      { tester with screen := seen, last, terminal := tester.terminal ++ [.updateSize] } := by
  intro seen
  obtain ⟨command, read, resize⟩ := Option.map_eq_some_iff.mp resizes
  refine ⟨some command, ?_⟩
  rw [after, read]
  simp only [obey_eq, resize]
  rfl

/-- Any other turn leaves the window of the legend as it is and turns its pages. -/
theorem after_other (sound : Sound tester) (other : ¬ turn.Resizes) :
    (tester.after turn).screen.size = (Event.applyTo tester.screen turn.taken).size ∧
      (tester.after turn).legend = tester.legend ∧
      (tester.after turn).terminal = tester.terminal ∧
      (tester.after turn).page = (tester.page + turn.pagesTurned) % tester.pages := by
  -- Where no page is turned the remainder is the page itself.
  have stays : tester.page = (tester.page + 0) % tester.pages := by
    rw [Int.add_zero, Int.emod_eq_of_lt sound.page_nonneg sound.page_lt]
  obtain ⟨read, taken, rest⟩ := turn
  cases read with
  | none => exact ⟨rfl, rfl, rfl, stays⟩
  | some command =>
    simp only [after, obey_eq, Turn.pagesTurned]
    split
    next resizes => exact absurd (congrArg some resizes) other
    next quits =>
      rw [if_neg (by simp [quits])]
      exact ⟨rfl, rfl, rfl, stays⟩
    next turns =>
      rw [if_pos turns]
      exact ⟨rfl, rfl, rfl, rfl⟩
    next redraws =>
      rw [if_neg (by simp [redraws])]
      exact ⟨rfl, rfl, rfl, stays⟩
    next turns _ =>
      rw [if_neg turns]
      exact ⟨rfl, rfl, rfl, stays⟩

theorem Sound.after (sound : Sound tester) (turn : Turn) : Sound (tester.after turn) := by
  -- A resize makes a new legend; any other turn only moves the page around the count.
  by_cases resizes : turn.Resizes
  case pos =>
    obtain ⟨_, renewed⟩ := after_resize tester resizes
    rw [renewed]
    exact sound_renewLegend sound.page_nonneg
  case neg =>
    obtain ⟨-, legend, -, page⟩ := after_other sound resizes
    have count : (tester.after turn).pages = tester.pages := by
      rw [pages, pages, (after_keeps tester turn).1, legend]
    have positive : 0 < tester.pages := Int.lt_of_le_of_lt sound.page_nonneg sound.page_lt
    constructor
    case page_nonneg =>
      rw [page]
      exact Int.emod_nonneg _ (by omega)
    case page_lt =>
      rw [page, count]
      exact Int.emod_lt_of_pos _ positive
    case fault => rw [legend]; exact sound.fault
    case calls => rw [legend]; exact sound.calls

theorem Sound.drawn_legend (sound : Sound tester) (drawn : tester.draw? = some drawing) :
    ∃ attempts, drawing.tester.legend = { tester.legend with attempts, calls := [] } := by
  obtain ⟨_, _, same, -⟩ := of_draw? drawn
  obtain ⟨attempts, window⟩ := sound.drawLegend_window
  refine ⟨attempts, ?_⟩
  rw [same]
  exact congrArg Window.forget window

theorem Sound.drawn (sound : Sound tester) (drawn : tester.draw? = some drawing) :
    Sound drawing.tester := by
  obtain ⟨_, legend⟩ := sound.drawn_legend drawn
  obtain ⟨_, _, same, -⟩ := of_draw? drawn
  have page : drawing.tester.page = tester.page := by rw [same]
  have count : drawing.tester.pages = tester.pages := by
    rw [pages, legend, same]
    rfl
  constructor
  case page_nonneg => rw [page]; exact sound.page_nonneg
  case page_lt => rw [page, count]; exact sound.page_lt
  case fault => rw [legend]; exact sound.fault
  case calls => rw [legend]

/-! ### Frame by frame -/

/-- How a frame follows on the one before it, on a screen that has some size by then: behind a turn with
a new size the window is made anew, and the page goes back to the final one when there are fewer now;
behind any other turn the pages are turned. -/
structure Follows (binder : Binder) (size : Int × Int) (turn : Turn) (frame next : Frame) : Prop where
  renewed : turn.Resizes → next.terminal = [.updateSize, creation size] ∧ next.width = size.2 ∧
    next.page = min frame.page (pagesIn binder size.2 - 1)
  turned : ¬ turn.Resizes → next.terminal = [] ∧ next.width = frame.width ∧
    next.page = (frame.page + turn.pagesTurned) % pagesIn binder frame.width

theorem size_step (sound : Sound tester) (drawn : tester.draw? = some drawing) (turn : Turn) :
    (drawing.tester.after turn).screen.size = (Event.applyTo tester.screen turn.taken).size := by
  obtain ⟨_, _, same, -⟩ := of_draw? drawn
  have before : drawing.tester.screen.size = tester.screen.size := by rw [same]; rfl
  rw [← Event.size_applyTo before]
  by_cases resizes : turn.Resizes
  case pos =>
    obtain ⟨_, renewed⟩ := after_resize drawing.tester resizes
    rw [renewed]
    rfl
  case neg => exact (after_other (sound.drawn drawn) resizes).1

theorem follows_step (sound : Sound tester) (drawn : tester.draw? = some drawing) (turn : Turn)
    {later : Drawing} (next : (drawing.tester.after turn).draw? = some later) :
    Follows tester.binder (Event.applyTo tester.screen turn.taken).size turn drawing.frame
      later.frame := by
  rw [← size_step sound drawn]
  obtain ⟨_, blank⟩ := sound.drawn_legend drawn
  -- Drawing changes nothing the next turn reads, so both frames show their testers.
  obtain ⟨_, _, same, shown⟩ := of_draw? drawn
  obtain ⟨_, _, -, behind⟩ := of_draw? next
  rw [shown, behind]
  constructor
  case renewed =>
    intro resizes
    obtain ⟨_, renewed⟩ := after_resize drawing.tester resizes
    rw [renewed, same]
    exact ⟨rfl, rfl, rfl⟩
  case turned =>
    intro resizes
    obtain ⟨-, legend, terminal, page⟩ := after_other (sound.drawn drawn) resizes
    rw [terminal, legend, page, pages, blank, same]
    exact ⟨rfl, rfl, rfl⟩

/-! ### Whole runs -/

theorem Plays.shows (plays : Plays tester events frames rest ending) (sound : Sound tester) :
    ∀ frame ∈ frames, ShowsPage tester.binder frame := by
  induction plays with
  | quit stopped => simp
  | unshowable running hidden => simp
  | starved running drawn dry => simpa using sound.showsPage drawn
  | @turn tester events drawing turn frames rest ending running drawn next later ih =>
    have shown := ih ((sound.drawn drawn).after turn)
    rw [step_binder drawn] at shown
    rw [List.forall_mem_cons]
    exact ⟨sound.showsPage drawn, shown⟩

theorem Plays.first (plays : Plays tester events frames rest ending) {frame : Frame}
    (found : frames[0]? = some frame) :
    ∃ drawing, tester.draw? = some drawing ∧ drawing.frame = frame := by
  cases plays with
  | quit stopped => simp at found
  | unshowable running hidden => simp at found
  | starved running drawn dry => exact ⟨_, drawn, by simpa using found⟩
  | turn running drawn next later => exact ⟨_, drawn, by simpa using found⟩

theorem Plays.starts (plays : Plays tester events frames rest ending) (ready : Ready tester) :
    ∃ drawing, tester.draw? = some drawing ∧ frames[0]? = some drawing.frame := by
  cases plays with
  | quit stopped => simp [Ready, stopped] at ready
  | unshowable running hidden => simp [Ready, hidden] at ready
  | starved running drawn dry => exact ⟨_, drawn, rfl⟩
  | turn running drawn next later => exact ⟨_, drawn, rfl⟩

/-- Between two frames stands the turn with the number of the first one. -/
theorem Plays.follows (plays : Plays tester events frames rest ending) (sound : Sound tester)
    (place : Nat) {frame next : Frame} (here : frames[place]? = some frame)
    (behind : frames[place + 1]? = some next) :
    let turns := turns tester.binder events
    ∃ turn, turns[place]? = some turn ∧
      Follows tester.binder
        (Event.applyTo tester.screen ((turns.take (place + 1)).flatMap Turn.taken)).size
        turn frame next := by
  induction plays generalizing place with
  | quit stopped => simp at here
  | unshowable running hidden => simp at here
  | starved running drawn dry => simp at behind
  | @turn tester events drawing turn frames rest ending running drawn nextTurn later ih =>
    rw [step_binder drawn] at ih
    rw [List.getElem?_cons_succ] at behind
    rw [turns_some nextTurn]
    cases place with
    | zero =>
      obtain ⟨second, shown, rfl⟩ := later.first behind
      obtain rfl : drawing.frame = frame := by simpa using here
      refine ⟨turn, rfl, ?_⟩
      simpa using follows_step sound drawn turn shown
    | succ place =>
      rw [List.getElem?_cons_succ] at here
      obtain ⟨between, found, follows⟩ := ih ((sound.drawn drawn).after turn) place here behind
      refine ⟨between, found, ?_⟩
      -- The size behind the first turn is the one that the later turns start from.
      rw [Event.size_applyTo (size_step sound drawn turn), ← Event.applyTo_append] at follows
      rwa [List.take_succ_cons, List.flatMap_cons]

/-- As long as the window of the legend stays, the turns of its pages add up. -/
theorem page_between {binder : Binder} {turns : List Turn} {sizes : Nat → Int × Int}
    (shows : ∀ frame ∈ frames, ShowsPage binder frame)
    (follows : ∀ place frame next, frames[place]? = some frame → frames[place + 1]? = some next →
      ∃ turn, turns[place]? = some turn ∧ Follows binder (sizes place) turn frame next)
    (first count : Nat) {frame later : Frame} (here : frames[first]? = some frame)
    (there : frames[first + count]? = some later)
    (same : ∀ turn ∈ (turns.drop first).take count, ¬ turn.Resizes) :
    later.width = frame.width ∧
      later.page = (frame.page + (((turns.drop first).take count).map Turn.pagesTurned).sum) %
        pagesIn binder frame.width := by
  -- The induction is on the turns between the two frames; the last of them leads to the later frame.
  induction count generalizing later with
  | zero =>
    obtain rfl := Option.some.inj (here.symm.trans there)
    have shown := shows frame (List.mem_of_getElem? here)
    simp [Int.emod_eq_of_lt shown.page_nonneg shown.page_lt]
  | succ count ih =>
    obtain ⟨before, found⟩ : ∃ before, frames[first + count]? = some before := by
      obtain ⟨inside, -⟩ := List.getElem?_eq_some_iff.mp there
      exact ⟨_, List.getElem?_eq_getElem (by omega)⟩
    obtain ⟨turn, between, step⟩ := follows (first + count) before later found there
    have longer : (turns.drop first).take (count + 1) = (turns.drop first).take count ++ [turn] := by
      rw [List.take_add_one, List.getElem?_drop, between, Option.toList_some]
    rw [longer, List.forall_mem_append, List.forall_mem_singleton] at same
    obtain ⟨width, page⟩ := ih found same.1
    obtain ⟨-, kept, turned⟩ := step.turned same.2
    refine ⟨kept.trans width, ?_⟩
    -- The remainder that the frame before has already taken does not count.
    rw [turned, page, width, Int.emod_add_emod, longer, List.map_append, List.sum_append]
    simp [Int.add_assoc]

theorem ready_make (binder : Binder) (screen : Window Refusal) (page : Int)
    (terminal : List TerminalCall) :
    Ready (make binder screen page terminal) := by
  constructor
  · rfl
  · rw [isSome_draw?_iff]
    intro command last
    cases last

/-- A binder with two keys, one that turns the pages of the legend and one to quit. -/
def twoKeys : Binder :=
  { table := (Table.fresh ⟨{}, Terminal.usualName⟩).editAll [.assign 111 .otherCommands, .assign 113 .quit]
    keysFile := ⟨.root, ["keys"]⟩
    grid := .make 6 }

theorem lookup_twoKeys :
    twoKeys.limits = {} ∧ twoKeys.table.lookup 106 = none ∧
      twoKeys.table.lookup 111 = some .otherCommands ∧ twoKeys.table.lookup 113 = some .quit := by
  decide +kernel

theorem turns_twoKeys {count : Nat} (positive : 1 ≤ count) {c : Char}
    (letter : 97 ≤ c.toNat ∧ c.toNat ≤ 122) :
    turns twoKeys (typed (Nat.toDigits 10 count ++ [c, 'q'])) =
      [⟨some ⟨(twoKeys.table.lookup c.toNat).elim .unbound .action, count, 0, c.toNat⟩,
          typed (Nat.toDigits 10 count ++ [c]), typed ['q']⟩,
        ⟨some ⟨.action .quit, 1, 0, 113⟩, typed ['q'], []⟩] := by
  obtain ⟨usual, -, -, quits⟩ := lookup_twoKeys
  have first := nextTurn?_letter usual (some count) (by simpa using positive) letter (typed ['q'])
  -- The letter takes all digits in front of it; the quit is a command of its own.
  have second : nextTurn? twoKeys (typed ['q']) =
      some ⟨some ⟨.action .quit, 1, 0, 113⟩, typed ['q'], []⟩ := by
    have turn := @nextTurn?_letter twoKeys usual none (by simp) 'q' (by decide) []
    rw [show ('q'.toNat : Int) = 113 from rfl, quits] at turn
    exact turn
  have parts : typed (Nat.toDigits 10 count ++ [c, 'q']) =
      typed (Nat.toDigits 10 count ++ [c]) ++ typed ['q'] := by
    simp [typed]
  have behind : turns twoKeys (typed ['q']) = [⟨some ⟨.action .quit, 1, 0, 113⟩, typed ['q'], []⟩] := by
    rw [turns_some second, turns_none (nextTurn?_nil twoKeys)]
  rw [parts]
  exact (turns_some first).trans (by rw [behind]; rfl)

/-- In a run that starts from a natural page every frame shows a page that there is. The window of the
legend is made at the start and behind every turn with a new size; between two windows the pages that
are turned add up, modulo the number of pages. The first turn to quit ends the run, and no event behind
it is taken, unless the count of an earlier command is too long to be written: then the frame behind that
command cannot be drawn. -/
theorem run_pages (binder : Binder) (screen : Window Refusal) (page : Int) (natural : 0 ≤ page)
    (terminal : List TerminalCall) (events : List Event) :
    let run := (make binder screen page terminal).run events
    let turns := turns binder events
    let sizeBehind := fun count => (Event.applyTo screen ((turns.take count).flatMap Turn.taken)).size
    entries.length = 48 ∧
    (∀ frame ∈ run.frames, ShowsPage binder frame) ∧
    (∃ frame, run.frames[0]? = some frame ∧
      frame.terminal = terminal ++ [creation screen.size] ∧ frame.width = screen.width ∧
      frame.page = min page (pagesIn binder screen.width - 1)) ∧
    (∀ place frame next, run.frames[place]? = some frame → run.frames[place + 1]? = some next →
      ∃ turn, turns[place]? = some turn ∧
        Follows binder (sizeBehind (place + 1)) turn frame next) ∧
    (∀ first count frame later, run.frames[first]? = some frame →
      run.frames[first + count]? = some later →
      (∀ turn ∈ (turns.drop first).take count, ¬ turn.Resizes) →
      later.width = frame.width ∧
      later.page = (frame.page + (((turns.drop first).take count).map Turn.pagesTurned).sum) %
        pagesIn binder frame.width) ∧
    (∀ before turn after, turns = before ++ turn :: after → turn.Quits →
      (∀ earlier ∈ before, ¬ earlier.Quits) →
      ((run.ending = .quit ∧ run.frames.length = before.length + 1 ∧
          (before ++ [turn]).flatMap Turn.taken ++ run.rest = events) ↔
        ∀ earlier ∈ before, earlier.Showable)) ∧
    (run.ending = .quit → ∃ turn ∈ turns, turn.Quits) ∧
    (run.ending = .unshowable ↔ ∃ before turn after, turns = before ++ turn :: after ∧
      (∀ earlier ∈ before, earlier.Continues) ∧ ¬ turn.Quits ∧ ¬ turn.Showable ∧
      run.frames.length = before.length + 1) := by
  intro run turns sizeBehind
  have sound : Sound (make binder screen page terminal) := sound_renewLegend natural
  have ready := ready_make binder screen page terminal
  -- All parts are read off the play of the run, which was built by induction over its turns.
  have plays := plays_run (make binder screen page terminal) events
  have shows := plays.shows sound
  have follows := plays.follows sound
  refine ⟨rfl, shows, ?_, follows, ?_, ?_, plays.quits ready, plays.unshowable_iff ready⟩
  · obtain ⟨drawing, drawn, found⟩ := plays.starts ready
    obtain ⟨_, _, -, shown⟩ := of_draw? drawn
    refine ⟨drawing.frame, found, ?_⟩
    rw [shown]
    exact ⟨rfl, rfl, rfl⟩
  · exact fun first count frame later => page_between shows follows first count
  · exact fun before turn after => plays.quit_iff ready

/-- From the last of five pages seven more lead to the second one, and then the tester quits. -/
theorem run_pages_turned :
    let run := (make twoKeys { height := 24, width := 80 } 9 []).run (typed ['7', 'o', 'q'])
    (0 : Int) ≤ 9 ∧ run.frames.map Frame.page = [4, 1] ∧ run.ending = .quit := by
  intro run
  obtain ⟨-, -, turner, -⟩ := lookup_twoKeys
  let turning : Turn := ⟨some ⟨.action .otherCommands, 7, 0, 111⟩, typed ['7', 'o'], typed ['q']⟩
  let quitting : Turn := ⟨some ⟨.action .quit, 1, 0, 113⟩, typed ['q'], []⟩
  have split : turns twoKeys (typed ['7', 'o', 'q']) = [turning] ++ [quitting] := by
    have whole := @turns_twoKeys 7 (by decide) 'o' (by decide)
    rw [show ('o'.toNat : Int) = 111 from rfl, turner] at whole
    exact whole
  have showable : turning.Showable := by
    intro command found
    obtain rfl := Option.some.inj found
    exact Nat.lt_of_lt_of_le (by decide : 7 < 10 ^ 1) (Nat.pow_le_pow_right (by decide) (by decide))
  obtain ⟨-, -, ⟨first, found, -, width, start⟩, -, between, quits, -⟩ :=
    run_pages twoKeys { height := 24, width := 80 } 9 (by decide) [] (typed ['7', 'o', 'q'])
  obtain ⟨ends, count, -⟩ := (quits _ _ [] split rfl (by simp [turning, Turn.Quits, Turn.meaning?])).mpr
    (by simpa using showable)
  obtain ⟨frame, second, frames⟩ := List.length_eq_two.mp count
  -- The run has two frames, and the seven pages are turned between them.
  rw [frames] at found between
  obtain rfl : frame = first := Option.some.inj found
  obtain ⟨-, turned⟩ := between 0 1 frame second rfl rfl (by
    simp [split, turning, Turn.Resizes, Turn.meaning?])
  have last : frame.page = 4 := start.trans (by decide)
  have sum : (((turns twoKeys (typed ['7', 'o', 'q'])).drop 0).take 1).map Turn.pagesTurned = [7] := by
    rw [split]
    rfl
  rw [sum, last, width] at turned
  refine ⟨by decide, ?_, ends⟩
  show run.frames.map Frame.page = [4, 1]
  rw [show run.frames = [frame, second] from frames, List.map_cons, List.map_singleton, last, turned]
  decide

/-- A count with a digit too many keeps the frame behind its command from being drawn, so a command to
quit that is still to come is not read. -/
theorem run_unshowable {count : Nat} (long : 10 ^ Text.digitLimit ≤ count) :
    let events := typed (Nat.toDigits 10 count ++ ['j', 'q'])
    let run := (make twoKeys { height := 24, width := 80 } 0 []).run events
    (turns twoKeys events).map Turn.command =
        [some ⟨.unbound, count, 0, 106⟩, some ⟨.action .quit, 1, 0, 113⟩] ∧
      run.ending = .unshowable ∧ run.frames.length = 1 := by
  intro events run
  obtain ⟨-, unbound, -⟩ := lookup_twoKeys
  have positive : 1 ≤ count := Nat.le_trans (Nat.pow_pos (by decide)) long
  let endless : Turn := ⟨some ⟨.unbound, count, 0, 106⟩, typed (Nat.toDigits 10 count ++ ['j']), typed ['q']⟩
  let quitting : Turn := ⟨some ⟨.action .quit, 1, 0, 113⟩, typed ['q'], []⟩
  have split : turns twoKeys events = [] ++ endless :: [quitting] := by
    have whole := @turns_twoKeys count positive 'j' (by decide)
    rw [show ('j'.toNat : Int) = 106 from rfl, unbound] at whole
    exact whole
  -- The first turn cannot be shown, so the quit behind it is never reached.
  have hidden : ¬ endless.Continues := fun continues =>
    Nat.not_lt.mpr long (continues.2 _ rfl)
  have plays := plays_run (make twoKeys { height := 24, width := 80 } 0 []) events
  obtain ⟨ends, drawn, -⟩ := plays.stops (ready_make ..) split (by simp) hidden
  exact ⟨by rw [split]; rfl, ends, drawn⟩

/-- A run that a command to quit does not end. -/
theorem run_not_quit :
    let count : Nat := 10 ^ Text.digitLimit
    let events := typed (Nat.toDigits 10 count ++ ['j', 'q'])
    let run := (make twoKeys { height := 24, width := 80 } 0 []).run events
    (turns twoKeys events).map Turn.command =
        [some ⟨.unbound, count, 0, 106⟩, some ⟨.action .quit, 1, 0, 113⟩] ∧
      run.ending = .unshowable ∧ run.frames.length = 1 :=
  run_unshowable (Nat.le_refl _)

end Tester

end KeyBindings
