import KeyBindings.KeysFile.Load
import KeyBindings.Proofs.Binding.Walk

/-!
# Keys that lines ask for

Loading binds the keys that its lines ask for one after the other and notes every key that is refused.
It has nothing to note exactly when the table can bind them all.
-/
namespace KeyBindings.KeysFile

/-- A key that a numbered line asks for. -/
structure Request where
  number : Nat
  action : Action
  name : Text.Points

def Request.key (keyboard : Keyboard) (request : Request) : Int × Action :=
  (keyboard.codeOfPoints request.name, request.action)

namespace Loading

variable {loading : Loading} {after : Table}

def bindRequest (loading : Loading) (request : Request) : Loading :=
  loading.bindName request.number request.action request.name

theorem bindName_ok {number : Nat} {action : Action} {name : Text.Points}
    (assigned : loading.table.assign (loading.table.keyboard.codeOfPoints name) action = .ok after) :
    loading.bindName number action name =
      { loading with table := after, report.assigned := loading.report.assigned + 1 } := by
  simp only [bindName, assigned]

theorem bindRequest_refused {request : Request} {reason : AssignError}
    (refused : loading.table.assign (loading.table.keyboard.codeOfPoints request.name) request.action =
      .error reason) :
    (loading.bindRequest request).report.problems =
      loading.report.problems ++ [.line request.number (.refused reason)] := by
  simp only [bindRequest, bindName, refused, refuse]

/-- Requests that a table can meet one after the other are met by loading. -/
theorem bindRequests_of_binds {requests : List Request}
    (binds : loading.table.Binds (requests.map (Request.key loading.table.keyboard)) after) :
    requests.foldl bindRequest loading =
      { loading with table := after,
                     report.assigned := loading.report.assigned + requests.length } := by
  induction requests generalizing loading with
  | nil =>
    cases binds
    rfl
  | cons request rest ih =>
    rw [List.map_cons] at binds
    cases binds with
    | cons assigned later =>
      -- The run of the table and the fold of the loader take the same next assignment.
      have step : loading.bindRequest request = _ := bindName_ok assigned
      rw [← Table.keyboard_assign assigned] at later
      rw [List.foldl_cons, step, ih later]
      simp only [List.length_cons, Nat.add_assoc, Nat.add_comm 1]

theorem problems_bindRequest (loading : Loading) (request : Request) :
    loading.report.problems <+: (loading.bindRequest request).report.problems := by
  unfold bindRequest bindName
  split
  · exact List.prefix_refl _
  · exact List.prefix_append _ _

theorem problems_bindRequests (requests : List Request) (loading : Loading) :
    loading.report.problems <+: (requests.foldl bindRequest loading).report.problems := by
  induction requests generalizing loading with
  | nil => exact List.prefix_refl _
  | cons request rest ih =>
    exact (problems_bindRequest loading request).trans (ih (loading.bindRequest request))

theorem binds_of_clean {requests : List Request}
    (clean : (requests.foldl bindRequest loading).report.problems = []) :
    ∃ after, loading.table.Binds (requests.map (Request.key loading.table.keyboard)) after := by
  induction requests generalizing loading with
  | nil => exact ⟨loading.table, .nil _⟩
  | cons request rest ih =>
    rw [List.foldl_cons] at clean
    cases assigned : loading.table.assign (loading.table.keyboard.codeOfPoints request.name)
        request.action with
    | ok middle =>
      have step : loading.bindRequest request = _ := bindName_ok assigned
      obtain ⟨after, binds⟩ := ih clean
      rw [step] at binds
      dsimp only at binds
      rw [Table.keyboard_assign assigned] at binds
      exact ⟨after, .cons assigned binds⟩
    | error reason =>
      -- A refusal that is noted stays noted, so this run was not clean.
      have noted := problems_bindRequests rest (loading.bindRequest request)
      rw [clean, bindRequest_refused assigned] at noted
      simp at noted

/-- Keys are bound without a problem exactly when they are different and nobody has one of them. -/
theorem bindRequests_clean (positive : 1 ≤ loading.table.limits.keyMin) (requests : List Request)
    (valid : ∀ request ∈ requests,
      loading.table.limits.isValid (loading.table.keyboard.codeOfPoints request.name) = true) :
    (requests.foldl bindRequest loading).report.problems = [] ↔
      loading.report.problems = [] ∧
      (requests.map fun request => loading.table.keyboard.codeOfPoints request.name).Nodup ∧
      ∀ request ∈ requests,
        loading.table.lookup (loading.table.keyboard.codeOfPoints request.name) = none := by
  have codes : (requests.map (Request.key loading.table.keyboard)).map Prod.fst =
      requests.map fun request => loading.table.keyboard.codeOfPoints request.name := by
    rw [List.map_map]
    rfl
  constructor
  · intro clean
    obtain ⟨after, binds⟩ := binds_of_clean clean
    obtain ⟨distinct, free⟩ := binds.free positive
    rw [codes] at distinct free
    rw [bindRequests_of_binds binds] at clean
    exact ⟨clean, distinct, fun request member => free _ (List.mem_map_of_mem member)⟩
  · rintro ⟨clean, distinct, free⟩
    -- Different free keys can be bound in a run, and a run leaves nothing to note.
    have bindable : ∃ after,
        loading.table.Binds (requests.map (Request.key loading.table.keyboard)) after :=
      Table.Binds.of_free positive (by simpa [Request.key] using valid) (codes ▸ distinct)
        (by simpa [codes] using free)
    obtain ⟨after, binds⟩ := bindable
    rw [bindRequests_of_binds binds]
    exact clean

theorem bindRequests_present (requests : List Request)
    (clean : (requests.foldl bindRequest loading).report.problems = []) :
    ∀ request ∈ requests, (requests.foldl bindRequest loading).table.isMissing request.action = false := by
  intro request member
  obtain ⟨after, binds⟩ := binds_of_clean clean
  rw [bindRequests_of_binds binds]
  exact binds.present (List.mem_map_of_mem (f := Request.key loading.table.keyboard) member)

end Loading

end KeyBindings.KeysFile
