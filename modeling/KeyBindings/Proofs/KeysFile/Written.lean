import KeyBindings.KeysFile.Load
import KeyBindings.Proofs.Binding.Runs

/-!
# The lines of a written keys file

A written keys file has a head that says nothing and a line for every action that is not
missing. Such a line reads back as the label of the action and the names of its keys, where a
name that is a blank is lost and every other name is a field.
-/
namespace KeyBindings

namespace Action

theorem isKeyName_label (action : Action) : IsKeyName action.label := by
  cases action <;> decide

theorem label_no_comment (action : Action) : (Text.points action.label).head? ≠ some (.scalar '#') := by
  cases action <;> decide

theorem ofLabel?_label (action : Action) : ofLabel? action.label = some action := by
  cases action <;> decide

end Action

/-- A name that a keyboard shows: a field, or one blank. -/
def IsShownName (name : Text.Points) : Prop :=
  IsKeyName name ∨ ∃ point : Text.CodePoint, point.isAsciiBlank = true ∧ name = [point]

namespace KeysFile

@[simp]
theorem actionOf?_label (action : Action) : actionOf? action.label = some action := by
  rw [actionOf?, Text.string?_points, Option.bind_some, action.ofLabel?_label]

theorem isKeyName_mark : IsKeyName Table.undefinedMark := by decide

theorem not_mem_of_isKeyName {c : Char} (name : String) (isName : IsKeyName name)
    (isBlank : Text.isAsciiBlank c = true) : c ∉ name.toList := fun member => by
  have solid := (isKeyName_points.mp isName).2 c member
  rw [isBlank] at solid
  cases solid

theorem fields_name {name : Text.Points} (shown : IsShownName name) :
    Text.fieldsWhere Text.CodePoint.isAsciiBlank name = if IsKeyName name then [name] else [] := by
  rcases shown with isName | ⟨point, isBlank, rfl⟩
  · have whole := Text.fieldsWhere_field name [] isName rfl
    rw [List.append_nil] at whole
    rw [whole, if_pos isName]
    rfl
  · have other : ¬ IsKeyName [point] := fun isName => by
      have solid := isName.2 point (List.mem_singleton_self point)
      rw [isBlank] at solid
      cases solid
    rw [if_neg other, Text.fieldsWhere_blank point [] isBlank]
    rfl

def spaced (names : List Text.Points) : Text.Points := names.flatMap (· ++ [.scalar ' '])

/-- The line of a label and some names. -/
def lineOf (label : Text.Points) (names : List Text.Points) : Text.Points :=
  label ++ .scalar ' ' :: .scalar ' ' :: spaced names

theorem fields_spaced (names : List Text.Points) (shown : ∀ name ∈ names, IsShownName name) :
    Text.fieldsWhere Text.CodePoint.isAsciiBlank (spaced names) =
      names.filter fun name => IsKeyName name := by
  induction names with
  | nil => rfl
  | cons name rest ih =>
    have tail := ih fun other member => shown other (List.mem_cons_of_mem _ member)
    have first := fields_name (shown name List.mem_cons_self)
    rw [spaced] at tail ⊢
    rw [List.flatMap_cons, List.append_assoc, List.singleton_append,
      Text.fieldsWhere_cut _ (by decide), first, tail]
    by_cases isName : IsKeyName name <;> simp [isName]

/-- What is written for a label and some names is their line. -/
theorem points_line (label : String) (names : List String) :
    Text.points (label ++ "  " ++ String.join (names.map (· ++ " "))) =
      lineOf label (names.map Text.points) := by
  simp [lineOf, spaced, Text.points, List.flatMap_map, List.map_flatMap]

/-- A line reads back as its label and those of its names that are no blanks. -/
theorem parseLine?_shown (label : Text.Points) (names : List Text.Points) (isLabel : IsKeyName label)
    (noComment : label.head? ≠ some (.scalar '#')) (shown : ∀ name ∈ names, IsShownName name) :
    parseLine? (lineOf label names) = some (label, names.filter fun name => IsKeyName name) := by
  have cut : Text.fieldsWhere Text.CodePoint.isAsciiBlank (lineOf label names) =
      label :: names.filter fun name => IsKeyName name := by
    rw [lineOf, Text.fieldsWhere_field label _ isLabel (by simp; decide),
      Text.fieldsWhere_blank _ _ (by decide), Text.fieldsWhere_blank _ _ (by decide),
      fields_spaced names shown]
  simp [parseLine?, cut, noComment]

theorem parseLine?_names (label : Text.Points) (names : List Text.Points) (isLabel : IsKeyName label)
    (noComment : label.head? ≠ some (.scalar '#')) (areNames : ∀ name ∈ names, IsKeyName name) :
    parseLine? (lineOf label names) = some (label, names) := by
  have whole : (names.filter fun name => IsKeyName name) = names :=
    List.filter_eq_self.mpr fun name member => decide_eq_true (areNames name member)
  rw [parseLine?_shown label names isLabel noComment fun name member => .inl (areNames name member),
    whole]

theorem parseLine?_mark (action : Action) :
    parseLine? (action.label ++ "  " ++ Table.undefinedMark : String) =
      some (↑action.label, [Text.points Table.undefinedMark]) := by
  have cut : Text.fieldsWhere Text.CodePoint.isAsciiBlank
      (Text.points (action.label ++ "  " ++ Table.undefinedMark)) =
      [Text.points action.label, Text.points Table.undefinedMark] := by
    have gap : Text.points "  " = [.scalar ' ', .scalar ' '] := rfl
    have whole := Text.fieldsWhere_field (Text.points Table.undefinedMark) [] isKeyName_mark rfl
    rw [List.append_nil] at whole
    rw [Text.points_append, Text.points_append, gap, List.append_assoc, List.cons_append,
      List.singleton_append, Text.fieldsWhere_field _ _ action.isKeyName_label rfl,
      Text.fieldsWhere_blank _ _ (by decide), Text.fieldsWhere_blank _ _ (by decide), whole]
    rfl
  rw [parseLine?, cut]
  exact if_neg action.label_no_comment

/-! ### The whole file -/

def writtenActions (table : Table) : List Action :=
  Action.all.filter fun action => !table.isMissing action

def writtenLine (table : Table) (action : Action) : String :=
  action.label ++ "  " ++ table.allKeys action

/-- The names of an action's keys are fields. -/
def Named (table : Table) (action : Action) : Prop :=
  ∀ name ∈ table.keyNames action, IsKeyName name

theorem parseLine?_writtenLine (table : Table) (action : Action) (named : Named table action) :
    parseLine? (writtenLine table action) =
      some (↑action.label, (if table.isUndefined action then [Table.undefinedMark]
        else table.keyNames action).map Text.points) := by
  unfold writtenLine Table.allKeys
  split
  · exact parseLine?_mark action
  · rw [points_line]
    apply parseLine?_names _ _ action.isKeyName_label action.label_no_comment
    intro name member
    obtain ⟨text, isName, rfl⟩ := List.mem_map.mp member
    exact named text isName

theorem parseLine?_comment (rest : Text.Points) : parseLine? (.scalar '#' :: rest) = none := by
  obtain ⟨field, others, cut⟩ :=
    @Text.fieldsWhere_first _ Text.CodePoint.isAsciiBlank (.scalar '#') rest (by decide)
  simp [parseLine?, cut]

theorem header_says_nothing : ∀ line ∈ textLines header, parseLine? line = none := by
  have starts : ∀ line ∈ Text.linesOf header.toList, line = [] ∨ line.head? = some '#' := by
    simp only [header, String.toList_append]
    decide +kernel
  intro line member
  obtain ⟨characters, inHeader, rfl⟩ := List.mem_map.mp member
  rcases starts characters inHeader with rfl | sign
  · rfl
  · cases characters with
    | nil => cases sign
    | cons c rest =>
      obtain rfl : c = '#' := Option.some.inj sign
      exact parseLine?_comment _

/-- No blank but the space stands on the line of an action. -/
theorem writtenLine_solid (table : Table) (action : Action) (named : Named table action) (c : Char)
    (isBlank : Text.isAsciiBlank c = true) (other : c ≠ ' ') :
    c ∉ (writtenLine table action).toList := by
  have label := not_mem_of_isKeyName action.label action.isKeyName_label isBlank
  unfold writtenLine Table.allKeys
  split
  · have mark := not_mem_of_isKeyName Table.undefinedMark isKeyName_mark isBlank
    simp [label, other, mark]
  · simp only [String.toList_append, String.toList_join, List.mem_append, List.flatMap_map,
      List.mem_flatMap, not_or, not_exists, not_and]
    refine ⟨⟨label, by simp [other]⟩, fun name member => ⟨?_, by simp [other]⟩⟩
    exact not_mem_of_isKeyName name (named name member) isBlank

theorem render_toList (table : Table) :
    (render table).toList = header.toList ++
      ((writtenActions table).map fun action => (writtenLine table action).toList).flatMap
        (· ++ ['\n']) := by
  simp [render, writtenActions, renderLine, writtenLine, List.flatMap_map]

/-! Behind the head of a file stand lines that are each closed by a line feed. -/

section

variable {text : String} {lines : List (List Char)}
  (characters : text.toList = header.toList ++ lines.flatMap (· ++ ['\n']))
include characters

theorem lines_headed (unbroken : ∀ line ∈ lines, '\n' ∉ line) :
    textLines text = textLines header ++ lines.map (·.map .scalar) := by
  -- The head ends in a line feed, so the lines behind it are cut on their own.
  obtain ⟨front, ends⟩ : ∃ front, header.toList = front ++ ['\n'] := ⟨_, String.toList_append⟩
  simp only [textLines, linesOf, characters, ends, List.append_assoc, List.cons_append, List.nil_append]
  rw [Text.linesOf_closed, Text.linesOf_flatMap lines unbroken, List.map_append]

theorem plain_headed (plain : ∀ line ∈ lines, '\r' ∉ line) : '\r' ∉ text.toList := by
  rw [characters, List.mem_append, not_or]
  constructor
  · simp only [header, String.toList_append]
    decide +kernel
  · intro member
    obtain ⟨line, written, inside⟩ := List.mem_flatMap.mp member
    rcases List.mem_append.mp inside with onLine | ending
    · exact plain line written onLine
    · exact absurd (List.mem_singleton.mp ending) (by decide)

end

theorem lines_render (table : Table) (named : ∀ action ∈ writtenActions table, Named table action) :
    textLines (render table) =
      textLines header ++ (writtenActions table).map fun action => Text.points (writtenLine table action) := by
  rw [lines_headed (render_toList table)]
  · rw [List.map_map]
    rfl
  · intro line member
    obtain ⟨action, written, rfl⟩ := List.mem_map.mp member
    exact writtenLine_solid table action (named action written) '\n' (by decide) (by decide)

end KeysFile

end KeyBindings
