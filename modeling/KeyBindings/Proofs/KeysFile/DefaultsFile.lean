import KeyBindings.Proofs.KeysFile.Reload
import KeyBindings.Proofs.KeysFile.Storage

/-!
# The file of the default keys

A file of default keys has a line for every action, with the names of its default keys. Loading it
binds these keys one after the other, so it goes through exactly when no two of the names stand for
the same key.
-/
namespace KeyBindings.KeysFile

/-! ### The lines of the file -/

theorem fields_intercalate (names : List (List Char))
    (areNames : ∀ name ∈ names, Text.IsField Text.isAsciiBlank name) :
    Text.fieldsWhere Text.isAsciiBlank ([' '].intercalate names) = names := by
  induction names with
  | nil => rfl
  | cons name rest ih =>
    have isName := areNames name List.mem_cons_self
    cases rest with
    | nil =>
      -- The last name ends with the text, every other one at the blank behind it.
      have whole := Text.fieldsWhere_field name [] isName rfl
      rw [List.append_nil] at whole
      rw [List.intercalate_singleton, whole]
      rfl
    | cons next rest =>
      have tail := ih fun other member => areNames other (List.mem_cons_of_mem _ member)
      rw [List.intercalate_cons_cons, List.append_assoc, List.singleton_append,
        Text.fieldsWhere_field name _ isName (by simp; decide),
        Text.fieldsWhere_blank _ _ (by decide), tail]

def defaultLine (action : Action) : String := action.label ++ "  " ++ action.defaultBinding

theorem defaultLine_toList (action : Action) :
    (defaultLine action).toList =
      action.label.toList ++ ' ' :: ' ' :: [' '].intercalate (action.defaultKeys.map String.toList) := by
  simp [defaultLine, Action.defaultBinding, String.toList_intercalate]

theorem parseLine?_defaultLine (action : Action) :
    parseLine? (defaultLine action) = some (↑action.label, action.defaultKeys.map Text.points) := by
  have fields := fields_intercalate (action.defaultKeys.map String.toList) (by
    intro name member
    obtain ⟨text, isKey, rfl⟩ := List.mem_map.mp member
    exact isKeyName_points.mp (action.isKeyName_of_mem_defaultKeys text isKey))
  have isLabel := isKeyName_points.mp action.isKeyName_label
  have cut : Text.fieldsWhere Text.CodePoint.isAsciiBlank (defaultLine action) =
      ↑action.label :: action.defaultKeys.map Text.points := by
    rw [Text.points, Text.fieldsWhere_scalars, defaultLine_toList,
      Text.fieldsWhere_field _ _ isLabel (by simp; decide),
      Text.fieldsWhere_blank _ _ (by decide), Text.fieldsWhere_blank _ _ (by decide), fields,
      List.map_cons, List.map_map]
    rfl
  rw [parseLine?, cut]
  exact if_neg action.label_no_comment

theorem not_mem_intercalate {c : Char} (other : c ≠ ' ') (names : List (List Char))
    (absent : ∀ name ∈ names, c ∉ name) : c ∉ [' '].intercalate names := by
  intro member
  rcases Text.mem_intercalate member with between | ⟨name, isName, inside⟩
  · exact other (List.mem_singleton.mp between)
  · exact absent name isName inside

/-- No blank but the space stands on the line of an action. -/
theorem defaultLine_solid (action : Action) (c : Char) (isBlank : Text.isAsciiBlank c = true)
    (other : c ≠ ' ') : c ∉ (defaultLine action).toList := by
  have label := not_mem_of_isKeyName action.label action.isKeyName_label isBlank
  have keys : c ∉ [' '].intercalate (action.defaultKeys.map String.toList) := by
    refine not_mem_intercalate other _ fun name member => ?_
    obtain ⟨text, isKey, rfl⟩ := List.mem_map.mp member
    exact not_mem_of_isKeyName text (action.isKeyName_of_mem_defaultKeys text isKey) isBlank
  simp [defaultLine_toList, label, other, keys]

theorem renderDefaults_toList :
    renderDefaults.toList = header.toList ++
      (Action.all.map fun action => (defaultLine action).toList).flatMap (· ++ ['\n']) := by
  simp [renderDefaults, renderLine, defaultLine, List.flatMap_map]

theorem lines_renderDefaults :
    textLines renderDefaults =
      textLines header ++ Action.all.map fun action => Text.points (defaultLine action) := by
  rw [lines_headed renderDefaults_toList]
  · rw [List.map_map]
    rfl
  · intro line member
    obtain ⟨action, -, rfl⟩ := List.mem_map.mp member
    exact defaultLine_solid action '\n' (by decide) (by decide)

theorem renderDefaults_plain : '\r' ∉ renderDefaults.toList := by
  refine plain_headed renderDefaults_toList fun line member => ?_
  obtain ⟨action, -, rfl⟩ := List.mem_map.mp member
  exact defaultLine_solid action '\r' (by decide) (by decide)

/-! ### What the lines ask for -/

/-- What the lines of some actions ask for when they are numbered on from some number. -/
def defaultRequests : Nat → List Action → List Request
  | _, [] => []
  | number, action :: rest =>
    (action.defaultKeys.map Text.points).map (Request.mk number action) ++ defaultRequests (number + 1) rest

theorem defaultRequests_names (number : Nat) (actions : List Action) :
    (defaultRequests number actions).map Request.name =
      (actions.flatMap Action.defaultKeys).map Text.points := by
  induction actions generalizing number with
  | nil => rfl
  | cons action rest ih => simp [defaultRequests, ih, Function.comp_def]

theorem defaultRequests_action (number : Nat) (actions : List Action) (action : Action)
    (member : action ∈ actions) :
    ∃ request ∈ defaultRequests number actions, request.action = action := by
  induction actions generalizing number with
  | nil => cases member
  | cons first rest ih =>
    rcases List.mem_cons.mp member with rfl | later
    · obtain ⟨name, isKey⟩ := List.exists_mem_of_ne_nil _ action.defaultKeys_ne_nil
      have named : Text.points name ∈ action.defaultKeys.map Text.points := List.mem_map_of_mem isKey
      exact ⟨⟨number, action, name⟩, List.mem_append_left _ (List.mem_map_of_mem named), rfl⟩
    · obtain ⟨request, asked, same⟩ := ih (number + 1) later
      exact ⟨request, List.mem_append_right _ asked, same⟩

namespace Loading

variable {loading : Loading}

theorem readLine_defaultLine (loading : Loading) (number : Nat) (action : Action) :
    loading.readLine number (defaultLine action) =
      ((action.defaultKeys.map Text.points).map (Request.mk number action)).foldl bindRequest loading := by
  have unlike : action.defaultKeys ≠ [Table.undefinedMark] := by cases action <;> decide
  have unmarked : action.defaultKeys.map Text.points ≠ [Text.points Table.undefinedMark] := fun marked =>
    unlike (Text.map_points_inj.mp marked)
  have some : action.defaultKeys.map Text.points ≠ [] := by simpa using action.defaultKeys_ne_nil
  rw [readLine_names number (parseLine?_defaultLine action) some unmarked]
  exact (List.foldl_map (f := Request.mk number action) (g := bindRequest)).symm

theorem readLines_defaults (loading : Loading) (number : Nat) (actions : List Action) :
    loading.readLines number (actions.map fun action => Text.points (defaultLine action)) =
      (defaultRequests number actions).foldl bindRequest loading := by
  induction actions generalizing loading number with
  | nil => rfl
  | cons action rest ih =>
    rw [List.map_cons, readLines, readLine_defaultLine, ih, defaultRequests, List.foldl_append]

end Loading

/-! ### The whole file -/

/-- The default keys of the first action stand on line 9, behind a head that says nothing. -/
theorem loadText_renderDefaults (table : Table) :
    loadText table renderDefaults =
      (defaultRequests 9 Action.all).foldl Loading.bindRequest ⟨table, {}⟩ := by
  have length : (textLines header).length = 8 := by
    simp only [textLines, linesOf, List.length_map, header, String.toList_append]
    decide +kernel
  rw [loadText, load, lines_renderDefaults, Loading.readLines_append,
    Loading.readLines_silent _ _ _ header_says_nothing, length, Loading.readLines_defaults]

theorem fileLines_renderDefaults :
    fileLines (Text.Utf8.encode renderDefaults) = textLines renderDefaults :=
  fileLines_encode renderDefaults renderDefaults_plain

/-- The default keys are loaded without a problem exactly when no two of their names stand for the
same key, and then no action is missing. -/
theorem load_defaults_clean (keyboard : Keyboard) (positive : 1 ≤ keyboard.limits.keyMin)
    (valid : ∀ name ∈ Action.all.flatMap Action.defaultKeys,
      keyboard.limits.isValid (keyboard.codeOf name) = true) :
    ((loadText (Table.fresh keyboard) renderDefaults).report.problems = [] ↔
      ((Action.all.flatMap Action.defaultKeys).map keyboard.codeOf).Nodup) ∧
    ((loadText (Table.fresh keyboard) renderDefaults).report.problems = [] →
      ∀ action, (loadText (Table.fresh keyboard) renderDefaults).table.isMissing action = false) := by
  have names := defaultRequests_names 9 Action.all
  have asked : ∀ request ∈ defaultRequests 9 Action.all,
      keyboard.limits.isValid (keyboard.codeOfPoints request.name) = true := by
    intro request member
    have named : request.name ∈ (Action.all.flatMap Action.defaultKeys).map Text.points :=
      names ▸ List.mem_map_of_mem member
    obtain ⟨name, isKey, same⟩ := List.mem_map.mp named
    rw [← same, Keyboard.codeOfPoints_points]
    exact valid name isKey
  have codes : (defaultRequests 9 Action.all).map (fun request => keyboard.codeOfPoints request.name) =
      (Action.all.flatMap Action.defaultKeys).map keyboard.codeOf := by
    have requested := congrArg (List.map keyboard.codeOfPoints) names
    simpa [Function.comp_def] using requested
  rw [loadText_renderDefaults (Table.fresh keyboard)]
  constructor
  · rw [@Loading.bindRequests_clean ⟨Table.fresh keyboard, {}⟩ positive _ asked, ← codes]
    simp only [Table.lookup_fresh, true_and, implies_true, and_true]
    rfl
  · intro clean action
    obtain ⟨request, member, rfl⟩ := defaultRequests_action 9 Action.all action action.mem_all
    exact Loading.bindRequests_present _ clean request member

end KeyBindings.KeysFile
