import KeyBindings.Proofs.Key.UsualNames
import KeyBindings.Proofs.KeysFile.Reload
import Mathlib.Data.List.TakeWhile

/-!
# Keys files of any keys

A blank can be bound by its code, and its name stands in a keys file like any other. The file is
read as if that name were not there, but a line feed also breaks the line of its action. Still the
line of an action starts with its label, and no other line does. So what a keys file gives back to
an action depends on what its own line says, and on who has taken a key by then.
-/
namespace KeyBindings

open Keyboard (usual)

/-! ### Names on a line -/

namespace Keyboard

theorem isKeyName_scanned {n : Nat} (scanned : IsScanned n) (filled : usual.keyName n ≠ "") :
    IsKeyName (usual.keyName n) :=
  isKeyName_points.mpr
    ⟨fun empty => filled (String.toList_eq_nil_iff.mp empty), (shows_scanned scanned filled).solid⟩

theorem isShownName {code : Int} {name : String} (named : usual.nameOf? code = some name) :
    IsShownName name := by
  rcases nameOf?_cases named with ⟨c, -, rfl⟩ | ⟨n, -, scanned, filled, rfl⟩
  · cases blank : Text.isAsciiBlank c with
    | true => exact .inr ⟨.scalar c, blank, by simp [Text.points]⟩
    | false => exact .inl (isKeyName_points.mpr ⟨by simp, (shows_extended blank).solid⟩)
  · exact .inl (isKeyName_scanned scanned filled)

/-- A blank is the name of its extended code only. -/
theorem eq_of_blank {code : Int} {c : Char} (blank : Text.isAsciiBlank c = true)
    (named : usual.nameOf? code = some (String.singleton c)) : code = usual.limits.extendedCode c := by
  rcases nameOf?_cases named with ⟨d, rfl, same⟩ | ⟨n, -, scanned, filled, same⟩
  · rw [String.singleton_inj.mp same]
  · have absent := KeysFile.not_mem_of_isKeyName _ (isKeyName_scanned scanned filled) blank
    exact absurd (by simp [← same]) absent

/-- Long names start with a caret or a capital. -/
theorem longNames_capital : ∀ n ∈ longCodes,
    (usual.keyName n).toList.head?.all (fun c => !c.isLower) = true := by
  decide +kernel

end Keyboard

namespace Action

theorem label_lower (action : Action) :
    action.label.toList.head?.any Char.isLower = true ∧ 2 ≤ action.label.toList.length := by
  cases action <;> decide

theorem label_ne_name (action : Action) {code : Int} {name : String}
    (named : usual.nameOf? code = some name) : name ≠ action.label := by
  rintro rfl
  obtain ⟨lower, several⟩ := action.label_lower
  rcases Keyboard.nameOf?_cases named with ⟨c, -, same⟩ | ⟨n, -, scanned, -, same⟩
  · simp [same] at several
  · have long : IsLongName (usual.keyName n) :=
      ⟨same ▸ several, same ▸ (isKeyName_points.mp action.isKeyName_label).2⟩
    have capital := Keyboard.longNames_capital n (Keyboard.mem_longCodes scanned long)
    rw [← same] at capital
    cases first : action.label.toList.head? with
    | none => simp [first] at lower
    | some c =>
      rw [first, Option.any_some] at lower
      rw [first, Option.all_some, lower] at capital
      cases capital

theorem label_injective {action other : Action} (same : action.label = other.label) :
    action = other := by
  have found := ofLabel?_label action
  rw [same, ofLabel?_label] at found
  exact (Option.some.inj found).symm

end Action

namespace KeysFile

theorem ne_feed {names : List String} (unbroken : "\n" ∉ names) :
    ∀ name ∈ names, decide (name ≠ "\n") = true := by
  intro name member
  apply decide_eq_true
  rintro rfl
  exact unbroken member

/-- The characters of some names, each with the blank that closes it. -/
def spacedText (names : List String) : List Char := names.flatMap fun name => name.toList ++ [' ']

theorem line_toList (label : String) (names : List String) :
    (label ++ "  " ++ String.join (names.map (· ++ " "))).toList =
      label.toList ++ ' ' :: ' ' :: spacedText names := by
  simp [spacedText, List.flatMap_map]

theorem map_spacedText (names : List String) :
    (spacedText names).map .scalar = spaced (names.map Text.points) := by
  simp [spacedText, spaced, Text.points, List.flatMap_map, List.map_flatMap]

theorem feed_not_mem_spacedText (names : List String) (shown : ∀ name ∈ names, IsShownName name)
    (unbroken : "\n" ∉ names) : '\n' ∉ spacedText names := by
  intro member
  obtain ⟨name, inNames, inside⟩ := List.mem_flatMap.mp member
  rcases List.mem_append.mp inside with inName | ending
  · rcases shown name inNames with isName | ⟨point, -, single⟩
    · exact not_mem_of_isKeyName name isName (by decide) inName
    · -- The one blank that has a line feed in it is the line feed.
      obtain ⟨c, -, rfl⟩ := Text.exists_singleton_of_points single
      rw [String.toList_singleton, List.mem_singleton] at inName
      subst inName
      exact unbroken inNames
  · exact absurd (List.mem_singleton.mp ending) (by decide)

/-! ### The lines of an action -/

/-- What the line of an action says: the mark, or its names up to a line feed without the blanks. -/
def lineNames (table : Table) (action : Action) : List String :=
  if table.isUndefined action then [Table.undefinedMark]
  else ((table.keyNames action).takeWhile (· ≠ "\n")).filter fun name => IsKeyName name

theorem label_mem_fields {line label : Text.Points} {names : List Text.Points}
    (parsed : parseLine? line = some (label, names)) :
    label ∈ Text.fieldsWhere Text.CodePoint.isAsciiBlank line := by
  unfold parseLine? at parsed
  split at parsed
  · cases parsed
  next first fields cut =>
    split at parsed
    · cases parsed
    · obtain ⟨rfl, -⟩ := Prod.mk.inj (Option.some.inj parsed)
      rw [cut]
      exact List.mem_cons_self

/-- A line feed is a blank, so the fields of some characters are those of their lines. -/
theorem fields_linesOf (characters : List Char) :
    (linesOf (characters ++ ['\n'])).flatMap (Text.fieldsWhere Text.CodePoint.isAsciiBlank) =
      Text.fieldsWhere Text.CodePoint.isAsciiBlank (characters.map .scalar) := by
  rw [linesOf, List.flatMap_map, Text.fieldsWhere_scalars, ← Text.fields_linesOf (by decide),
    List.map_flatMap]
  simp only [Text.fieldsWhere_scalars]

/-- The first line of a label and names ends at the first line feed among the names, and on the lines
behind it stand names only. -/
theorem linesOf_spaced (label : String) (whole : '\n' ∉ label.toList) (names : List String)
    (shown : ∀ name ∈ names, IsShownName name) :
    ∃ strays, linesOf (label.toList ++ ' ' :: ' ' :: spacedText names ++ ['\n']) =
        lineOf label ((names.takeWhile (· ≠ "\n")).map Text.points) :: strays ∧
      ∀ stray ∈ strays, ∀ field ∈ Text.fieldsWhere Text.CodePoint.isAsciiBlank stray,
        ∃ name ∈ names, field = name := by
  have line : ∀ names : List String, (label.toList ++ ' ' :: ' ' :: spacedText names).map .scalar =
      lineOf label (names.map Text.points) := by
    intro names
    rw [List.map_append, List.map_cons, List.map_cons, map_spacedText]
    rfl
  by_cases broken : "\n" ∈ names
  · obtain ⟨front, back, rfl, unbroken⟩ := List.eq_append_cons_of_mem broken
    have closed : '\n' ∉ label.toList ++ ' ' :: ' ' :: spacedText front := by
      have shownFront : ∀ name ∈ front, IsShownName name := fun name member =>
        shown name (List.mem_append_left _ member)
      simp [whole, feed_not_mem_spacedText front shownFront unbroken]
    have kept : (front ++ "\n" :: back).takeWhile (· ≠ "\n") = front := by
      rw [List.takeWhile_append_of_pos (ne_feed unbroken)]
      simp
    have split : label.toList ++ ' ' :: ' ' :: spacedText (front ++ "\n" :: back) ++ ['\n'] =
        label.toList ++ ' ' :: ' ' :: spacedText front ++ '\n' :: (' ' :: spacedText back ++ ['\n']) := by
      simp [spacedText]
    rw [kept, split, linesOf, Text.linesOf_break _ _ closed, List.map_cons, line]
    refine ⟨_, rfl, fun stray isLine field inside => ?_⟩
    -- A field behind the line feed is a field of all that stands there, so it is a name.
    have shownBack : ∀ name ∈ back.map Text.points, IsShownName name := by
      intro name member
      obtain ⟨text, inBack, rfl⟩ := List.mem_map.mp member
      exact shown text (List.mem_append_right _ (List.mem_cons_of_mem _ inBack))
    have behind := List.mem_flatMap.mpr ⟨stray, isLine, inside⟩
    rw [← linesOf, fields_linesOf, List.map_cons, Text.fieldsWhere_blank _ _ (by decide),
      map_spacedText, fields_spaced _ shownBack] at behind
    obtain ⟨name, inBack, rfl⟩ := List.mem_map.mp (List.mem_filter.mp behind).1
    exact ⟨name, List.mem_append_right _ (List.mem_cons_of_mem _ inBack), rfl⟩
  · have closed : '\n' ∉ label.toList ++ ' ' :: ' ' :: spacedText names := by
      simp [whole, feed_not_mem_spacedText names shown broken]
    rw [List.takeWhile_eq_self_iff.mpr (ne_feed broken), linesOf, Text.linesOf_line _ closed,
      List.map_singleton, line]
    exact ⟨[], rfl, by simp⟩

/-- The lines into which what is written for an action is cut. -/
def linesOfAction (table : Table) (action : Action) : List Text.Points :=
  linesOf ((writtenLine table action).toList ++ ['\n'])

theorem lines_render_any (table : Table) :
    textLines (render table) =
      textLines header ++ (writtenActions table).flatMap (linesOfAction table) := by
  obtain ⟨front, ends⟩ : ∃ front, header.toList = front ++ ['\n'] := ⟨_, String.toList_append⟩
  simp only [textLines, linesOf, render_toList, ends, List.append_assoc, List.cons_append,
    List.nil_append]
  rw [Text.linesOf_closed, Text.linesOf_closedAll, List.map_append, List.flatMap_map,
    List.map_flatMap]
  rfl

theorem linesOfAction_eq {table : Table} {action : Action}
    (shown : ∀ name ∈ table.keyNames action, IsShownName name) :
    ∃ line strays, linesOfAction table action = line :: strays ∧
      parseLine? line = some (↑action.label, (lineNames table action).map Text.points) ∧
      ∀ stray ∈ strays, ∀ label names, parseLine? stray = some (label, names) →
        ∃ name ∈ table.keyNames action, label = name := by
  have whole := not_mem_of_isKeyName action.label action.isKeyName_label (c := '\n') (by decide)
  by_cases unbound : table.isUndefined action = true
  · have unbroken : '\n' ∉ (writtenLine table action).toList := by
      have mark := not_mem_of_isKeyName Table.undefinedMark isKeyName_mark (c := '\n') (by decide)
      rw [writtenLine, Table.allKeys, if_pos unbound]
      simp [whole, mark]
    refine ⟨writtenLine table action, [], ?_, ?_, by simp⟩
    · rw [linesOfAction, linesOf, Text.linesOf_line _ unbroken]
      rfl
    · rw [lineNames, if_pos unbound, writtenLine, Table.allKeys, if_pos unbound]
      exact parseLine?_mark action
  · obtain ⟨strays, cut, behind⟩ := linesOf_spaced action.label whole _ shown
    have shownFront : ∀ name ∈ ((table.keyNames action).takeWhile (· ≠ "\n")).map Text.points,
        IsShownName name := by
      intro name member
      obtain ⟨text, inFront, rfl⟩ := List.mem_map.mp member
      exact shown text (List.takeWhile_subset _ inFront)
    have parsed := parseLine?_shown action.label _ action.isKeyName_label action.label_no_comment
      shownFront
    rw [List.filter_map] at parsed
    rw [lineNames, if_neg unbound, linesOfAction, writtenLine, Table.allKeys, if_neg unbound,
      line_toList, cut]
    refine ⟨_, _, rfl, parsed, fun stray member label names parsed => ?_⟩
    exact behind stray member label (label_mem_fields parsed)

end KeysFile

end KeyBindings
