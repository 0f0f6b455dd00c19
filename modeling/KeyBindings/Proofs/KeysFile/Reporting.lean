import KeyBindings.Proofs.Key.NamedCodes
import KeyBindings.Proofs.KeysFile.Demands
import KeyBindings.Proofs.KeysFile.Reload

/-!
# What a load reports

Each demand of a keys file meets the table that those before it have left. That table alone decides
whether the demand is met or noted as a problem, and how many codes are bound afterwards.
-/
namespace KeyBindings.KeysFile

/-! ### Demands and the tables that they meet -/

/-- A demand with the number of its line and the table that it meets. -/
structure Turn where
  number : Nat
  demand : Demand
  table : Table

/-- The surrogate with which a name begins. -/
def leading? (name : Text.Points) : Option Text.Surrogate := name.head?.bind Text.CodePoint.surrogate?

namespace Turn

def owner? (turn : Turn) : Option Action :=
  match turn.demand with
  | .bind _ name => turn.table.lookup (turn.table.keyboard.codeOfPoints name)
  | _ => none

def fault? (turn : Turn) : Option LineFault :=
  match turn.demand with
  | .unknown label => some (.unknownAction label)
  | .keyless label => some (.noKeys label)
  | .unbind _ => none
  | .bind _ name =>
    let code := turn.table.keyboard.codeOfPoints name
    match turn.owner?, leading? name with
    | some owner, _ => some (.refused (.conflict code owner (turn.table.keyboard.nameOf? code)))
    | none, some _ => some (.refused (.noKeyCode (.invalid code)))
    | none, none => none

def problem? (turn : Turn) : Option Problem := turn.fault?.map (.line turn.number)

def gained (turn : Turn) : List Int :=
  match turn.demand with
  | .bind _ name => if turn.fault? = none then [turn.table.keyboard.codeOfPoints name] else []
  | _ => []

def released (turn : Turn) : List Int :=
  match turn.demand with
  | .unbind action => turn.table.codes action
  | _ => []

/-- The table that the demand leaves. A key that is refused leaves it as it is. -/
def after (turn : Turn) : Table :=
  match turn.demand with
  | .unbind action => turn.table.markUndefined action
  | .bind action name =>
    match turn.table.assign (turn.table.keyboard.codeOfPoints name) action with
    | .ok after => after
    | .error _ => turn.table
  | _ => turn.table

end Turn

/-- The demands, each with the table that those before it have left. -/
def turns (table : Table) : List (Nat × Demand) → List Turn
  | [] => []
  | (number, demand) :: rest => ⟨number, demand, table⟩ :: turns (Turn.after ⟨number, demand, table⟩) rest

/-- Is the problem about one name, and not about a whole line? -/
def Problem.isRefusal : Problem → Bool
  | .line _ (.refused _) => true
  | _ => false

/-! ### One demand -/

namespace Turn

variable {turn : Turn}

theorem limits_after (turn : Turn) : turn.after.limits = turn.table.limits := by
  unfold after
  split
  · exact Table.limits_markUndefined _ _
  · split
    next assigned => exact Table.limits_assign assigned
    · rfl
  · rfl

theorem consistent_after (positive : 1 ≤ turn.table.limits.keyMin) (consistent : turn.table.Consistent) :
    turn.after.Consistent := by
  unfold after
  split
  · exact consistent.markUndefined positive _
  · split
    next assigned => exact consistent.assign positive assigned
    · exact consistent
  · exact consistent

/-- The code of a name that begins with a surrogate is small enough to be written. -/
theorem fault_of_leading {name : Text.Points} {half : Text.Surrogate} (usual : turn.table.limits = {})
    (leads : leading? name = some half) :
    CodeFault.of (turn.table.keyboard.codeOfPoints name) =
      .invalid (turn.table.keyboard.codeOfPoints name) := by
  have limit : turn.table.keyboard.limits.keyMax = 511 := congrArg Limits.keyMax usual
  apply CodeFault.of_small
  rcases turn.table.keyboard.codeOfPoints_cases name with
    ⟨text, rfl⟩ | ⟨c, rest, rfl, -⟩ | ⟨other, rest, rfl, code⟩
  · cases first : text.toList <;>
      simp [leading?, Text.points, first, Text.CodePoint.surrogate?] at leads
  · cases leads
  · have high := other.high
    rw [code, limit]
    omega

/-- Under the usual limits the fault of a name is the reason for which its key is refused, and a name
without a fault is bound. -/
theorem assign_cases {action : Action} {name : Text.Points} (usual : turn.table.limits = {})
    (asks : turn.demand = .bind action name) :
    turn.fault? = none ∧
      turn.table.assign (turn.table.keyboard.codeOfPoints name) action = .ok turn.after ∨
    ∃ reason, turn.fault? = some (.refused reason) ∧
      turn.table.assign (turn.table.keyboard.codeOfPoints name) action = .error reason := by
  have code := Keyboard.isValid_codeOfPoints_usual usual name
  -- The owner is asked first, so a taken code is refused before a half surrogate is.
  cases owned : turn.owner? with
  | some owner =>
    refine .inr ⟨_, by simp only [fault?, asks, owned]; rfl, ?_⟩
    simp only [owner?, asks] at owned
    simp only [Table.assign, owned]
  | none =>
    have free : turn.table.lookup (turn.table.keyboard.codeOfPoints name) = none := by
      simpa only [owner?, asks] using owned
    cases leads : leading? name with
    | some half =>
      rw [← leading?, leads] at code
      refine .inr ⟨_, by simp only [fault?, asks, owned, leads]; rfl, ?_⟩
      rw [Table.assign_invalid code, fault_of_leading usual leads]
    | none =>
      rw [← leading?, leads] at code
      obtain ⟨next, assigned⟩ := Table.assign_free free code action
      refine .inl ⟨by simp only [fault?, asks, owned, leads], ?_⟩
      simp only [after, asks, assigned]

theorem after_of_fault (usual : turn.table.limits = {}) {fault : LineFault}
    (faulty : turn.fault? = some fault) : turn.after = turn.table := by
  cases asks : turn.demand with
  | bind action name =>
    rcases assign_cases usual asks with ⟨sound, -⟩ | ⟨reason, -, refused⟩
    · rw [sound] at faulty
      cases faulty
    · simp only [after, asks, refused]
  | unbind action => simp [fault?, asks] at faulty
  | _ => simp only [after, asks]

theorem gained_bind {action : Action} {name : Text.Points} (asks : turn.demand = .bind action name) :
    turn.gained = if turn.fault? = none then [turn.table.keyboard.codeOfPoints name] else [] := by
  simp only [gained, asks]

/-- What a turn binds and what it releases make up the change in the number of bound codes. -/
theorem length_boundCodes_after (usual : turn.table.limits = {}) (consistent : turn.table.Consistent) :
    turn.after.boundCodes.length + turn.released.length =
      turn.table.boundCodes.length + turn.gained.length := by
  have positive := Limits.one_le_keyMin usual
  -- No demand changes the list of more than one action.
  have change := consistent.length_boundCodes_change positive (turn.consistent_after positive consistent)
    turn.limits_after
  cases asks : turn.demand with
  | unknown label => simp only [after, released, gained, asks]
  | keyless label => simp only [after, released, gained, asks]
  | unbind action =>
    have lists : ∀ other, turn.after.codes other = if other = action then [] else turn.table.codes other := by
      intro other
      simp only [after, asks, Table.codes_markUndefined]
    have own := change action fun other differ => by rw [lists, if_neg differ]
    rw [lists, if_pos rfl] at own
    simpa only [released, gained, asks] using own
  | bind action name =>
    -- A name releases nothing, and it binds its code only when nothing is wrong with it.
    have none : turn.released = [] := by simp only [released, asks]
    rw [none, gained_bind asks]
    rcases assign_cases usual asks with ⟨sound, assigned⟩ | ⟨reason, faulty, -⟩
    · have lists := Table.codes_assign assigned
      have own := change action fun other differ => by rw [lists, if_neg differ]
      rw [lists, if_pos rfl, List.length_append] at own
      rw [if_pos sound, List.length_nil]
      omega
    · rw [after_of_fault usual faulty, if_neg (by simp [faulty])]

theorem gained_or_refused (usual : turn.table.limits = {}) :
    turn.gained.length + turn.problem?.toList.countP Problem.isRefusal =
      if turn.demand.isBind then 1 else 0 := by
  cases asks : turn.demand with
  | unknown label => simp [gained, problem?, fault?, asks, Demand.isBind, Problem.isRefusal]
  | keyless label => simp [gained, problem?, fault?, asks, Demand.isBind, Problem.isRefusal]
  | unbind action => simp [gained, problem?, fault?, asks, Demand.isBind]
  | bind action name =>
    rw [gained_bind asks, problem?]
    rcases assign_cases usual asks with ⟨sound, -⟩ | ⟨reason, faulty, -⟩
    · simp [sound, Demand.isBind]
    · simp [faulty, Demand.isBind, Problem.isRefusal]

end Turn

theorem meet_table (loading : Loading) (asked : Nat × Demand) :
    (loading.meet asked).table = (Turn.mk asked.1 asked.2 loading.table).after := by
  obtain ⟨number, demand⟩ := asked
  cases demand with
  | bind action name =>
    simp only [Loading.meet, Loading.bindName, Turn.after]
    cases loading.table.assign (loading.table.keyboard.codeOfPoints name) action with
    | ok after => rfl
    | error reason => rfl
  | _ => rfl

/-- A demand adds its problem to the report and counts the key that it binds. -/
theorem meet_turn (loading : Loading) (asked : Nat × Demand) (usual : loading.table.limits = {}) :
    let turn := Turn.mk asked.1 asked.2 loading.table
    (loading.meet asked).report.problems = loading.report.problems ++ turn.problem?.toList ∧
      (loading.meet asked).report.assigned = loading.report.assigned + turn.gained.length := by
  obtain ⟨number, demand⟩ := asked
  intro turn
  -- Only a demand to bind can fail on the table; the others report or clear outright.
  cases demand with
  | unknown label => exact ⟨rfl, rfl⟩
  | keyless label => exact ⟨rfl, rfl⟩
  | unbind action => exact ⟨(List.append_nil _).symm, rfl⟩
  | bind action name =>
    have asks : turn.demand = .bind action name := rfl
    rw [Turn.problem?, Turn.gained_bind asks]
    rcases Turn.assign_cases usual asks with ⟨sound, assigned⟩ | ⟨reason, faulty, refused⟩
    · have step : loading.meet (number, .bind action name) = _ := Loading.bindName_ok assigned
      rw [step, sound]
      exact ⟨(List.append_nil _).symm, rfl⟩
    · have refused : loading.table.assign (loading.table.keyboard.codeOfPoints name) action = _ := refused
      simp only [Loading.meet, Loading.bindName, refused, Loading.refuse, faulty]
      exact ⟨rfl, rfl⟩

/-! ### All demands -/

/-- What a run of demands adds to a load, said of the turns it takes. -/
structure Meets (loading after : Loading) (turns : List Turn) : Prop where
  problems : after.report.problems = loading.report.problems ++ turns.filterMap Turn.problem?
  assigned : after.report.assigned = loading.report.assigned + (turns.flatMap Turn.gained).length
  bound : after.table.boundCodes.length + (turns.flatMap Turn.released).length =
    loading.table.boundCodes.length + (turns.flatMap Turn.gained).length

theorem problems_cons (turn : Turn) (rest : List Turn) :
    (turn :: rest).filterMap Turn.problem? = turn.problem?.toList ++ rest.filterMap Turn.problem? := by
  rw [List.filterMap_eq_flatMap_toList, List.filterMap_eq_flatMap_toList, List.flatMap_cons]

theorem meets_all (asked : List (Nat × Demand)) (loading : Loading) (usual : loading.table.limits = {})
    (consistent : loading.table.Consistent) :
    Meets loading (asked.foldl Loading.meet loading) (turns loading.table asked) := by
  induction asked generalizing loading with
  | nil => exact ⟨(List.append_nil _).symm, rfl, rfl⟩
  | cons first rest ih =>
    obtain ⟨number, demand⟩ := first
    let turn : Turn := ⟨number, demand, loading.table⟩
    have table : (loading.meet (number, demand)).table = turn.after := meet_table loading (number, demand)
    -- The limits and the consistency, on which every single demand relies, are kept by each.
    have held : turn.after.Consistent := turn.consistent_after (Limits.one_le_keyMin usual) consistent
    have later := ih (loading.meet (number, demand)) (by rw [table, turn.limits_after, usual]) (table ▸ held)
    have bound : (loading.meet (number, demand)).table.boundCodes.length + turn.released.length =
        loading.table.boundCodes.length + turn.gained.length := by
      rw [table]
      exact turn.length_boundCodes_after usual consistent
    obtain ⟨problems, assigned⟩ := meet_turn loading (number, demand) usual
    have shape : turns loading.table ((number, demand) :: rest) = turn :: turns turn.after rest := rfl
    rw [table] at later
    rw [shape, List.foldl_cons]
    constructor
    case problems => rw [later.problems, problems, problems_cons, List.append_assoc]
    case assigned => rw [later.assigned, assigned, List.flatMap_cons, List.length_append, Nat.add_assoc]
    case bound =>
      have others := later.bound
      rw [List.flatMap_cons, List.flatMap_cons, List.length_append, List.length_append]
      omega

/-- The table that a load leaves is the one that its last demand leaves. -/
theorem table_meets (asked : List (Nat × Demand)) (loading : Loading) :
    (asked.foldl Loading.meet loading).table =
      ((turns loading.table asked).getLast?.map Turn.after).getD loading.table := by
  induction asked generalizing loading with
  | nil => rfl
  | cons first rest ih =>
    obtain ⟨number, demand⟩ := first
    rw [List.foldl_cons, ih, meet_table, turns, List.getLast?_cons, Option.map_some, Option.getD_some,
      Option.getD_map]

theorem gained_add_refusals (table : Table) (usual : table.limits = {}) (asked : List (Nat × Demand)) :
    ((turns table asked).flatMap Turn.gained).length +
        ((turns table asked).filterMap Turn.problem?).countP Problem.isRefusal =
      asked.countP fun ask => ask.2.isBind := by
  induction asked generalizing table with
  | nil => rfl
  | cons first rest ih =>
    obtain ⟨number, demand⟩ := first
    have one := @Turn.gained_or_refused ⟨number, demand, table⟩ usual
    have later := ih (Turn.after ⟨number, demand, table⟩) (Turn.limits_after _ ▸ usual)
    rw [turns, problems_cons, List.flatMap_cons, List.length_append, List.countP_append,
      List.countP_cons]
    dsimp only at one ⊢
    omega

theorem usual_of_mem_turns {table : Table} {asked : List (Nat × Demand)} {turn : Turn}
    (usual : table.limits = {}) (member : turn ∈ turns table asked) : turn.table.limits = {} := by
  induction asked generalizing table with
  | nil => cases member
  | cons first rest ih =>
    obtain ⟨number, demand⟩ := first
    rcases List.mem_cons.mp member with rfl | later
    · exact usual
    · exact ih (Turn.limits_after _ ▸ usual) later

/-! ### The whole load -/

/-- Loading goes through all lines, whatever they say. It reports one problem for each line with an
unknown label, for each label without names, for each name whose key has an owner when its turn comes
and for each name that begins with a surrogate, in the order of the lines and of the names on them. What
is reported changes nothing. Every problem is noted in the journal. The other names are bound, so the
number of bound codes grows by them and shrinks by the codes that were released. -/
theorem load_reports (table : Table) (lines : List Text.Points) (reachable : table.IsReachable)
    (usual : table.limits = {}) :
    let loading := load table lines
    let turns := turns table (demands 1 lines)
    loading.table = (turns.getLast?.map Turn.after).getD table ∧
    loading.report.problems = turns.filterMap Turn.problem? ∧
    (∀ turn ∈ turns, turn.fault? ≠ none → turn.after = turn.table) ∧
    loadRecords loading.report = (turns.filterMap Turn.problem?).map (fun problem =>
      ⟨.warning, Journal.program, "Keys file: " ++ problem.message⟩) ∧
    loading.report.assigned + loading.report.problems.countP Problem.isRefusal =
      ((lines.filter isLabelled).flatMap namesOn).length ∧
    loading.table.boundCodes.length + (turns.flatMap Turn.released).length =
      table.boundCodes.length + loading.report.assigned := by
  intro loading turns
  have consistent := reachable.consistent (Limits.one_le_keyMin usual)
  have met := meets_all (demands 1 lines) ⟨table, {}⟩ usual consistent
  have left := table_meets (demands 1 lines) ⟨table, {}⟩
  rw [← readLines_eq] at met left
  -- A load begins with an empty report, so what its demands add is all of it.
  have problems : loading.report.problems = turns.filterMap Turn.problem? := met.problems
  have assigned : loading.report.assigned = (turns.flatMap Turn.gained).length :=
    met.assigned.trans (Nat.zero_add _)
  refine ⟨left, problems, ?_, ?_, ?_, ?_⟩
  · intro turn member faulty
    obtain ⟨fault, faulty⟩ := Option.ne_none_iff_exists'.mp faulty
    exact Turn.after_of_fault (usual_of_mem_turns usual member) faulty
  · rw [loadRecords, problems]
  · rw [assigned, problems, gained_add_refusals table usual, countP_demands]
  · rw [assigned]
    exact met.bound

/-- Quit owns `q` until its line takes it away, so help is refused and save is not. -/
theorem load_reports_released :
    let table := (Table.fresh Keyboard.usual).editAll [.assign 113 .quit]
    let lines : List Text.Points := ["# keys", "generic-help q w w", "help x", "generic-quit UNDEFINED",
      "generic-copy", "generic-save q"]
    table.IsReachable ∧ table.limits = {} ∧
      (load table lines).report.problems =
        [.line 2 (.refused (.conflict 113 .quit (some "q"))),
         .line 2 (.refused (.conflict 119 .help (some "w"))), .line 3 (.unknownAction "help"),
         .line 5 (.noKeys "generic-copy")] ∧
      (turns table (demands 1 lines)).flatMap Turn.released = [113] ∧
      (load table lines).table.boundCodes.length +
          ((turns table (demands 1 lines)).flatMap Turn.released).length =
        table.boundCodes.length + (load table lines).report.assigned := by
  intro table lines
  have reachable : table.IsReachable := ⟨[.assign 113 .quit], rfl⟩
  have usual : table.limits = {} := rfl
  obtain ⟨-, problems, -, -, -, codes⟩ := load_reports table lines reachable usual
  rw [problems]
  refine ⟨reachable, usual, ?_, ?_, codes⟩
  · decide +kernel
  · decide +kernel

/-- A surrogate has no key code. A name that begins with one is refused though its label is known and
nobody owns its key. -/
theorem load_reports_surrogate :
    let table := Table.fresh Keyboard.usual
    let lines : List Text.Points :=
      [Text.points "generic-quit  " ++ [.surrogate ⟨0xD800, by decide, by decide⟩]]
    table.IsReachable ∧ table.limits = {} ∧
      (∀ turn ∈ turns table (demands 1 lines), turn.demand.isBind = true ∧ turn.owner? = none) ∧
      (load table lines).report.problems = [.line 1 (.refused (.noKeyCode (.invalid 55807)))] := by
  refine ⟨⟨[], rfl⟩, rfl, ?_, ?_⟩
  · decide +kernel
  · decide +kernel

end KeyBindings.KeysFile
