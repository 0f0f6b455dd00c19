import KeyBindings.Proofs.Binding.Runs

/-!
# What a keys file asks for

A keys file asks for one thing after the other: its lines in their order, and the names on a line in
theirs. Loading it carries out these demands one by one.
-/
namespace KeyBindings.KeysFile

inductive Demand where
  | unknown (label : Text.Points)
  | keyless (label : Text.Points)
  | unbind (action : Action)
  | bind (action : Action) (name : Text.Points)

/-- What a line asks for. -/
def demandsOf (line : Text.Points) : List Demand :=
  match parseLine? line with
  | none => []
  | some (label, names) =>
    match actionOf? label with
    | none => [.unknown label]
    | some action =>
      if names = [] then [.keyless label]
      else if names = [Text.points Table.undefinedMark] then [.unbind action]
      else names.map (.bind action)

def demands (number : Nat) (lines : List Text.Points) : List (Nat × Demand) :=
  (lines.zipIdx number).flatMap fun line => (demandsOf line.1).map (line.2, ·)

/-- Does a line begin with the label of an action? -/
def isLabelled (line : Text.Points) : Bool :=
  (parseLine? line).any fun fields => (actionOf? fields.1).isSome

def Demand.isBind : Demand → Bool
  | .bind _ _ => true
  | _ => false

/-! ### Carrying out demands -/

def Loading.meet (loading : Loading) (asked : Nat × Demand) : Loading :=
  match asked.2 with
  | .unknown label => loading.refuse asked.1 (.unknownAction label)
  | .keyless label => loading.refuse asked.1 (.noKeys label)
  | .unbind action =>
    { loading with
      table := loading.table.markUndefined action
      report.undefined := loading.report.undefined ++ [action] }
  | .bind action name => loading.bindName asked.1 action name

theorem readLine_eq (loading : Loading) (number : Nat) (line : Text.Points) :
    loading.readLine number line = ((demandsOf line).map (number, ·)).foldl Loading.meet loading := by
  cases parsed : parseLine? line with
  | none => simp [Loading.readLine, demandsOf, parsed]
  | some fields =>
    obtain ⟨label, names⟩ := fields
    cases found : actionOf? label with
    | none => simp [Loading.readLine, demandsOf, parsed, found, Loading.meet]
    | some action =>
      -- The names are told apart in the order in which a line is read.
      by_cases keyless : names = []
      · simp [Loading.readLine, demandsOf, parsed, found, keyless, Loading.meet]
      by_cases marked : names = [Text.points Table.undefinedMark]
      · simp [Loading.readLine, demandsOf, parsed, found, marked, Loading.meet]
      · simp [Loading.readLine, demandsOf, parsed, found, keyless, marked, Loading.meet, List.foldl_map]

theorem readLines_eq (loading : Loading) (number : Nat) (lines : List Text.Points) :
    loading.readLines number lines = (demands number lines).foldl Loading.meet loading := by
  induction lines generalizing loading number with
  | nil => rfl
  | cons line rest ih =>
    rw [Loading.readLines, ih, readLine_eq, ← List.foldl_append]
    rfl

theorem meet_report (loading : Loading) (asked : Nat × Demand) :
    (loading.meet asked).report.filled = loading.report.filled ∧
      (loading.meet asked).report.fileRead = loading.report.fileRead := by
  obtain ⟨number, demand⟩ := asked
  cases demand with
  | bind action name =>
    simp only [Loading.meet, Loading.bindName]
    split <;> exact ⟨rfl, rfl⟩
  | _ => exact ⟨rfl, rfl⟩

theorem readLines_report (loading : Loading) (number : Nat) (lines : List Text.Points) :
    (loading.readLines number lines).report.filled = loading.report.filled ∧
      (loading.readLines number lines).report.fileRead = loading.report.fileRead := by
  -- No demand counts default keys or says whether the file was read.
  rw [readLines_eq]
  generalize demands number lines = asked
  induction asked generalizing loading with
  | nil => exact ⟨rfl, rfl⟩
  | cons first rest ih =>
    obtain ⟨filled, fileRead⟩ := ih (loading.meet first)
    have step := meet_report loading first
    exact ⟨filled.trans step.1, fileRead.trans step.2⟩

/-! ### Names -/

theorem countP_demandsOf (line : Text.Points) :
    (demandsOf line).countP Demand.isBind = if isLabelled line then (namesOn line).length else 0 := by
  cases parsed : parseLine? line with
  | none => simp [demandsOf, isLabelled, parsed]
  | some fields =>
    obtain ⟨label, names⟩ := fields
    cases found : actionOf? label with
    | none => simp [demandsOf, isLabelled, parsed, found, Demand.isBind]
    | some action =>
      by_cases keyless : names = []
      · simp [demandsOf, namesOn, parsed, found, keyless, Demand.isBind]
      by_cases marked : names = [Text.points Table.undefinedMark]
      · simp [demandsOf, namesOn, parsed, found, marked, Demand.isBind]
      · have all : (names.map (Demand.bind action)).countP Demand.isBind = names.length := by
          simp [List.countP_map, Function.comp_def, Demand.isBind]
        simp [demandsOf, isLabelled, namesOn, parsed, found, keyless, marked, all]

theorem countP_demands (number : Nat) (lines : List Text.Points) :
    ((demands number lines).countP fun ask => ask.2.isBind) =
      ((lines.filter isLabelled).flatMap namesOn).length := by
  induction lines generalizing number with
  | nil => rfl
  | cons line rest ih =>
    have own : ((demandsOf line).map (number, ·)).countP (fun ask => ask.2.isBind) =
        (demandsOf line).countP Demand.isBind := by
      rw [List.countP_map]
      rfl
    have shape : demands number (line :: rest) =
        (demandsOf line).map (number, ·) ++ demands (number + 1) rest := rfl
    rw [shape, List.countP_append, own, countP_demandsOf, ih]
    by_cases labelled : isLabelled line = true <;> simp [labelled]

end KeyBindings.KeysFile
