import KeyBindings.Proofs.KeysFile.Demands
import KeyBindings.Proofs.KeysFile.Reload
import KeyBindings.Proofs.Text.Trimming

/-!
# Blanks, empty lines and comments

It is the same for a line which ASCII blanks stand around its fields, and how many of them. Empty lines and
comments can stand anywhere: they move the lines behind them, so problems there have other numbers.
-/
namespace KeyBindings.KeysFile

/-! ### Reading a line -/

/-- Whether a line says something is seen at its first character that is not blank. -/
theorem parseLine?_eq_none_iff_head (line text : Text.Points)
    (starts : ∀ point ∈ text.head?, Text.CodePoint.isAsciiBlank point = false)
    (same : Text.fieldsWhere Text.CodePoint.isAsciiBlank text =
      Text.fieldsWhere Text.CodePoint.isAsciiBlank line) :
    parseLine? line = none ↔ text = [] ∨ text.head? = some (.scalar '#') := by
  cases text with
  | nil => simp [parseLine?, ← same, Text.fieldsWhere]
  | cons c rest =>
    obtain ⟨field, others, cut⟩ := Text.fieldsWhere_first c rest (starts c rfl)
    simp [parseLine?, ← same, cut]

/-- A line is read as if it was trimmed, then looked at for a comment, and then cut at its runs of blanks. -/
theorem parseLine?_trimmed (line : Text.Points) :
    parseLine? line =
      let text := Text.trimWhere Text.CodePoint.isAsciiBlank line
      if text = [] ∨ text.head? = some (.scalar '#') then none
      else match Text.cutAtRuns Text.CodePoint.isAsciiBlank text with
        | [] => none
        | label :: names => some (label, names) := by
  have silent := parseLine?_eq_none_iff_head line (Text.trimWhere Text.CodePoint.isAsciiBlank line)
    (Text.trimWhere_ends _ _).1 (Text.fieldsWhere_trimWhere _)
  dsimp only
  split
  next nothing => exact silent.mpr nothing
  next something =>
    -- Something is left of the line, so the pieces of it are the fields of the line.
    have said := mt silent.mp something
    rw [Text.cutAtRuns_trimWhere _ fun empty => something (.inl empty)]
    unfold parseLine? at said ⊢
    cases cut : Text.fieldsWhere Text.CodePoint.isAsciiBlank line with
    | nil => rfl
    | cons label names =>
      rw [cut] at said
      exact if_neg fun comment => said (if_pos comment)

/-- A line that is blank, or has nothing but blanks before a number sign. -/
def IsSilent (line : Text.Points) : Prop :=
  let text := line.dropWhile Text.CodePoint.isAsciiBlank
  text = [] ∨ text.head? = some (.scalar '#')

instance (line : Text.Points) : Decidable (IsSilent line) := inferInstanceAs (Decidable (_ ∨ _))

theorem parseLine?_eq_none_iff (line : Text.Points) : parseLine? line = none ↔ IsSilent line :=
  parseLine?_eq_none_iff_head line _ (Text.head?_dropWhile_solid _) (Text.fieldsWhere_dropWhile _)

/-! ### Blanks on a line -/

/-- Names, each behind the blanks before it. -/
def spacedFields (fields : List (Text.Points × Text.Points)) : Text.Points :=
  fields.flatMap fun field => field.1 ++ field.2

/-- A line with some blanks before its label and behind its last field. -/
def spacedLine (front label : Text.Points) (fields : List (Text.Points × Text.Points))
    (back : Text.Points) : Text.Points :=
  front ++ (label ++ (spacedFields fields ++ back))

/-- A name behind at least one blank. -/
def IsSpacedName (field : Text.Points × Text.Points) : Prop :=
  (field.1 ≠ [] ∧ Text.IsRun Text.CodePoint.isAsciiBlank field.1) ∧ IsKeyName field.2

instance (field : Text.Points × Text.Points) : Decidable (IsSpacedName field) :=
  inferInstanceAs (Decidable (_ ∧ _))

variable {fields : List (Text.Points × Text.Points)} {back : Text.Points}

theorem head?_spacedFields (areSpaced : ∀ field ∈ fields, IsSpacedName field)
    (isBack : Text.IsRun Text.CodePoint.isAsciiBlank back) :
    (spacedFields fields ++ back).head?.all Text.CodePoint.isAsciiBlank = true := by
  -- First comes the gap before a name, or what stands behind the last field, if anything.
  cases fields with
  | nil =>
    cases back with
    | nil => rfl
    | cons c back => exact isBack c (by simp)
  | cons field fields =>
    obtain ⟨gap, name⟩ := field
    obtain ⟨⟨filled, isGap⟩, -⟩ := areSpaced (gap, name) (by simp)
    cases gap with
    | nil => exact absurd rfl filled
    | cons c gap => exact isGap c (by simp)

theorem fields_spacedFields (areSpaced : ∀ field ∈ fields, IsSpacedName field)
    (isBack : Text.IsRun Text.CodePoint.isAsciiBlank back) :
    Text.fieldsWhere Text.CodePoint.isAsciiBlank (spacedFields fields ++ back) =
      fields.map Prod.snd := by
  induction fields with
  | nil => exact Text.fieldsWhere_only isBack
  | cons field fields ih =>
    have others : ∀ other ∈ fields, IsSpacedName other := fun other member =>
      areSpaced other (List.mem_cons_of_mem field member)
    obtain ⟨⟨-, isGap⟩, isName⟩ := areSpaced field (by simp)
    have shape : spacedFields (field :: fields) ++ back =
        field.1 ++ (field.2 ++ (spacedFields fields ++ back)) := by simp [spacedFields]
    -- The name ends where the next gap begins, so it is cut off as a whole.
    rw [shape, Text.fieldsWhere_run isGap,
      Text.fieldsWhere_field _ _ isName (head?_spacedFields others isBack), ih others, List.map_cons]

theorem parseLine?_spacedLine {front label : Text.Points} (isLabel : IsKeyName label)
    (noComment : label.head? ≠ some (.scalar '#')) (areSpaced : ∀ field ∈ fields, IsSpacedName field)
    (isFront : Text.IsRun Text.CodePoint.isAsciiBlank front)
    (isBack : Text.IsRun Text.CodePoint.isAsciiBlank back) :
    parseLine? (spacedLine front label fields back) = some (label, fields.map Prod.snd) := by
  have cut : Text.fieldsWhere Text.CodePoint.isAsciiBlank (spacedLine front label fields back) =
      label :: fields.map Prod.snd := by
    rw [spacedLine, Text.fieldsWhere_run isFront,
      Text.fieldsWhere_field _ _ isLabel (head?_spacedFields areSpaced isBack),
      fields_spacedFields areSpaced isBack]
  simp [parseLine?, cut, noComment]

/-! ### Lines that say nothing -/

/-- A problem with the number of its line changed. -/
def Problem.renumber (place : Nat → Nat) : Problem → Problem
  | .line number fault => .line (place number) fault
  | .unreadable fault => .unreadable fault

/-- What came of a load, with the line numbers in its problems changed and nothing else. -/
def Loading.renumber (place : Nat → Nat) (loading : Loading) : Loading :=
  { loading with report.problems := loading.report.problems.map (Problem.renumber place) }

/-- A file with some lines put before each line of another one, and some at the end. -/
def withLines (padded : List (List Text.Points × Text.Points)) (last : List Text.Points) : List Text.Points :=
  (padded.flatMap fun line => line.1 ++ [line.2]) ++ last

/-- The number that a line of a file has when lines are put before it and before lines above it. -/
def placeIn (padded : List (List Text.Points × Text.Points)) (number : Nat) : Nat :=
  number + ((padded.take number).flatMap Prod.fst).length

namespace Loading

variable (place : Nat → Nat) (loading : Loading)

theorem meet_renumber (number : Nat) (demand : Demand) :
    (loading.renumber place).meet (place number, demand) =
      (loading.meet (number, demand)).renumber place := by
  cases demand with
  | unknown label => simp [meet, refuse, renumber, Problem.renumber]
  | keyless label => simp [meet, refuse, renumber, Problem.renumber]
  | unbind action => rfl
  | bind action name =>
    -- Whether the key can be bound is up to the table, which is the same.
    simp only [meet, bindName, renumber]
    split <;> simp [refuse, Problem.renumber]

theorem readLine_renumber (number : Nat) (line : Text.Points) :
    (loading.renumber place).readLine (place number) line =
      (loading.readLine number line).renumber place := by
  rw [readLine_eq, readLine_eq]
  induction demandsOf line generalizing loading with
  | nil => rfl
  | cons demand rest ih =>
    simp only [List.map_cons, List.foldl_cons]
    rw [meet_renumber, ih]

/-- The lines that are put in say nothing, and the others are read where they have come to stand. The load
may have begun: `number` was to be read next, and is now `other` or one of the lines behind it. -/
theorem readLines_withLines (padded : List (List Text.Points × Text.Points)) (last : List Text.Points)
    (silent : ∀ line ∈ padded.flatMap Prod.fst ++ last, parseLine? line = none) (number other : Nat)
    (agree : ∀ i < padded.length,
      place (number + i) = other + i + ((padded.take (i + 1)).flatMap Prod.fst).length) :
    (loading.renumber place).readLines other (withLines padded last) =
      (loading.readLines number (padded.map Prod.snd)).renumber place := by
  induction padded generalizing loading number other with
  | nil => exact readLines_silent _ _ last silent
  | cons line padded ih =>
    obtain ⟨before, line⟩ := line
    simp only [List.flatMap_cons, List.append_assoc, List.mem_append] at silent
    -- The line itself is moved by the lines before it, and the rest by as many more.
    have here : place number = other + before.length := by simpa using agree 0 (by simp)
    have tail : ∀ i < padded.length, place (number + 1 + i) =
        other + before.length + 1 + i + ((padded.take (i + 1)).flatMap Prod.fst).length := by
      intro i inside
      have later := agree (i + 1) (by simpa using inside)
      simp only [List.take_succ_cons, List.flatMap_cons, List.length_append] at later
      rw [show number + 1 + i = number + (i + 1) by omega, later]
      omega
    have shape : withLines ((before, line) :: padded) last = before ++ line :: withLines padded last := by
      simp [withLines]
    rw [shape, readLines_append, readLines_silent _ _ before fun line member => silent line (.inl member),
      readLines, ← here, readLine_renumber, here, List.map_cons, readLines]
    exact ih _ (fun line member => silent line (.inr (by simpa using member))) _ _ tail

end Loading

/-! ### Whole loads -/

/-- A line of a label and names loads like the line that is written for them, whatever blanks separate and
surround its fields. Putting in blank lines and comments changes nothing about a load but the line numbers
in its problems. -/
theorem load_spacing (table : Table) :
    (∀ (front label : Text.Points) (fields : List (Text.Points × Text.Points)) (back : Text.Points),
      Text.IsRun Text.CodePoint.isAsciiBlank front → IsKeyName label → label.head? ≠ some (.scalar '#') →
      (∀ field ∈ fields, IsSpacedName field) → Text.IsRun Text.CodePoint.isAsciiBlank back →
      load table [spacedLine front label fields back] =
        load table [lineOf label (fields.map Prod.snd)]) ∧
    ∀ (padded : List (List Text.Points × Text.Points)) (last : List Text.Points),
      (∀ line ∈ padded.flatMap Prod.fst ++ last, IsSilent line) →
      load table (withLines padded last) =
        (load table (padded.map Prod.snd)).renumber (placeIn padded) := by
  constructor
  · intro front label fields back isFront isLabel noComment areSpaced isBack
    -- Both lines split into the same label and names, and the loader sees no more of a line.
    have names : ∀ name ∈ fields.map Prod.snd, IsKeyName name := by
      intro name member
      obtain ⟨field, inFields, rfl⟩ := List.mem_map.mp member
      exact (areSpaced field inFields).2
    simp only [load, Loading.readLines, Loading.readLine]
    rw [parseLine?_spacedLine isLabel noComment areSpaced isFront isBack,
      parseLine?_names label _ isLabel noComment names]
  · intro padded last silent
    refine Loading.readLines_withLines (placeIn padded) ⟨table, {}⟩ padded last ?_ 1 1 ?_
    -- Silent lines change nothing but the number of the line that follows.
    · exact fun line member => (parseLine?_eq_none_iff line).mpr (silent line member)
    · intro i inside
      rw [placeIn, Nat.add_comm 1 i]

/-- Two names, one of them an ideographic space, behind blanks of all kinds, and a file with a comment and
empty lines in it. The lines that are refused were the first and the third. -/
theorem load_spacing_padded :
    let table := Table.fresh ⟨{}, Terminal.usualName⟩
    let front : Text.Points := "\t "
    let fields : List (Text.Points × Text.Points) := [("\x0b", "\u3000"), (" \x0c", "é")]
    let back : Text.Points := "\r\n"
    let padded : List (List Text.Points × Text.Points) :=
      [(["", " \t# note"], "nonsense x"), ([], "generic-save \u3000"), (["\t"], "generic-quit")]
    let last : List Text.Points := ["#"]
    (Text.IsRun Text.CodePoint.isAsciiBlank front ∧ IsKeyName "generic-save" ∧
      (Text.points "generic-save").head? ≠ some (.scalar '#') ∧ (∀ field ∈ fields, IsSpacedName field) ∧
      Text.IsRun Text.CodePoint.isAsciiBlank back ∧ ∀ line ∈ padded.flatMap Prod.fst ++ last, IsSilent line) ∧
    load table [spacedLine front "generic-save" fields back] = load table ["generic-save  \u3000 é "] ∧
    (load table (withLines padded last)).report.problems =
      [.line 3 (.unknownAction "nonsense"), .line 6 (.noKeys "generic-quit")] := by
  intro table front fields back padded last
  have isFront : Text.IsRun Text.CodePoint.isAsciiBlank front := by decide
  have isLabel : IsKeyName "generic-save" := by decide
  have noComment : (Text.points "generic-save").head? ≠ some (.scalar '#') := by decide
  have areSpaced : ∀ field ∈ fields, IsSpacedName field := by decide
  have isBack : Text.IsRun Text.CodePoint.isAsciiBlank back := by decide
  have silent : ∀ line ∈ padded.flatMap Prod.fst ++ last, IsSilent line := by decide
  have oneLine := (load_spacing table).1 front "generic-save" fields back isFront isLabel noComment
    areSpaced isBack
  have allLines := (load_spacing table).2 padded last silent
  have before : (load table (padded.map Prod.snd)).report.problems =
      [.line 1 (.unknownAction "nonsense"), .line 3 (.noKeys "generic-quit")] := by decide +kernel
  have written : lineOf "generic-save" (fields.map Prod.snd) = "generic-save  \u3000 é " := by decide
  rw [written] at oneLine
  refine ⟨⟨isFront, isLabel, noComment, areSpaced, isBack, silent⟩, oneLine, ?_⟩
  rw [allLines, Loading.renumber, before]
  rfl

end KeyBindings.KeysFile
