import KeyBindings.Text.Pieces

/-!
# Fields and lines of a text

Cutting a text at blanks gives fields without blanks, and gives back the fields that were
joined with blanks between them. Cutting at line feeds gives back the lines that were each
closed by one.
-/
namespace KeyBindings.Text

/-! ### Joined texts -/

section Joined

variable {α : Type} {mark : List α} {lists : List (List α)}

theorem mem_intercalate {value : α} (member : value ∈ mark.intercalate lists) :
    value ∈ mark ∨ ∃ list ∈ lists, value ∈ list := by
  induction lists with
  | nil => cases member
  | cons first rest ih =>
    cases rest with
    | nil => exact .inr ⟨first, List.mem_singleton_self first, by simpa using member⟩
    | cons second rest =>
      rw [List.intercalate_cons_cons, List.mem_append, List.mem_append] at member
      rcases member with (here | between) | later
      · exact .inr ⟨first, List.mem_cons_self, here⟩
      · exact .inl between
      · rcases ih later with between | ⟨list, isList, inside⟩
        · exact .inl between
        · exact .inr ⟨list, List.mem_cons_of_mem _ isList, inside⟩

end Joined

/-! ### Fields -/

section Fields

variable {α : Type} {blank : α → Bool}

/-- A text that is one field: it is not empty, and no character in it is blank. -/
def IsField (blank : α → Bool) (text : List α) : Prop :=
  text ≠ [] ∧ ∀ c ∈ text, blank c = false

-- The characters of the text are looked at, and not the text for every character.
instance (blank : α → Bool) (text : List α) : Decidable (IsField blank text) :=
  @instDecidableAnd _ _ inferInstance (List.decidableBAll _ text)

theorem fieldsWhere_blank (c : α) (rest : List α) (isBlank : blank c = true) :
    fieldsWhere blank (c :: rest) = fieldsWhere blank rest := by
  simp only [fieldsWhere, isBlank, if_true]

/-- A field that ends where the text does, or before a blank, is cut off as a whole. -/
theorem fieldsWhere_field (field rest : List α) (isField : IsField blank field)
    (ends : rest.head?.all blank = true) :
    fieldsWhere blank (field ++ rest) = field :: fieldsWhere blank rest := by
  obtain ⟨filled, solid⟩ := isField
  induction field with
  | nil => exact absurd rfl filled
  | cons c field ih =>
    have first : blank c = false := solid c (by simp)
    -- The field ends here or goes on; only its last character looks at what follows.
    cases field with
    | nil =>
      simp only [List.cons_append, List.nil_append, fieldsWhere, first, Bool.false_eq_true,
        if_false, ends]
    | cons d field =>
      have second : blank d = false := solid d (by simp)
      have tail := ih (by simp) fun other member => solid other (List.mem_cons_of_mem c member)
      simp only [List.cons_append] at tail ⊢
      rw [fieldsWhere, tail]
      simp [first, second]

/-- The first field starts where the text does, if that is no blank. -/
theorem fieldsWhere_first (c : α) (rest : List α) (solid : blank c = false) :
    ∃ field others, fieldsWhere blank (c :: rest) = (c :: field) :: others := by
  simp only [fieldsWhere, solid, Bool.false_eq_true, if_false]
  split
  next field others _ _ => exact ⟨field, others, rfl⟩
  · exact ⟨[], _, rfl⟩

theorem isField_of_mem_fieldsWhere (text field : List α)
    (member : field ∈ fieldsWhere blank text) : IsField blank field := by
  induction text generalizing field with
  | nil => simp [fieldsWhere] at member
  | cons c rest ih =>
    simp only [fieldsWhere] at member
    split at member
    · exact ih field member
    next solid =>
      have first : blank c = false := by simpa using solid
      split at member
      next other others _ cut =>
        -- The character joins the first field behind it; the other fields are those of the rest.
        rw [cut] at ih
        rcases List.mem_cons.mp member with rfl | later
        · refine ⟨by simp, fun d inField => ?_⟩
          rcases List.mem_cons.mp inField with rfl | inOther
          · exact first
          · exact (ih other (by simp)).2 d inOther
        · exact ih field (List.mem_cons_of_mem _ later)
      · rcases List.mem_cons.mp member with rfl | later
        · exact ⟨by simp, by simpa using first⟩
        · exact ih field later

/-- No field reaches over a blank, so a text can be cut at any of them. -/
theorem fieldsWhere_cut (front : List α) {c : α} (isBlank : blank c = true) (rest : List α) :
    fieldsWhere blank (front ++ c :: rest) = fieldsWhere blank front ++ fieldsWhere blank rest := by
  induction front with
  | nil => rw [List.nil_append, fieldsWhere_blank c rest isBlank, fieldsWhere, List.nil_append]
  | cons d front ih =>
    by_cases first : blank d = true
    · rw [List.cons_append, fieldsWhere_blank d _ first, ih, fieldsWhere_blank d _ first]
    · have solid : blank d = false := by simpa using first
      cases front with
      | nil => simp [fieldsWhere, solid, isBlank]
      | cons e front =>
        -- The first field ends at the next character or goes on with it, as it does in the front.
        simp only [List.cons_append] at ih ⊢
        rw [fieldsWhere, fieldsWhere.eq_def blank (d :: e :: front)]
        simp only [solid, Bool.false_eq_true, if_false, List.head?_cons, Option.all_some]
        rw [ih]
        by_cases second : blank e = true
        · simp [second]
        · have solid' : blank e = false := by simpa using second
          obtain ⟨field, others, cut⟩ := fieldsWhere_first e front solid'
          simp [solid', cut]

/-- Characters that are changed one by one leave the fields where they are. -/
theorem fieldsWhere_map {β : Type} (f : β → α) (text : List β) :
    fieldsWhere blank (text.map f) = (fieldsWhere (fun c => blank (f c)) text).map (List.map f) := by
  induction text with
  | nil => rfl
  | cons c rest ih =>
    simp only [List.map_cons, fieldsWhere, ih, List.head?_map, Option.all_map, Function.comp_def]
    split
    · rfl
    · -- Whether the first character is a field alone is seen at the next one.
      cases rest.head?.all fun d => blank (f d) <;>
        cases fieldsWhere (fun d => blank (f d)) rest <;> simp

end Fields

/-! ### Lines -/

/-- A text that ends in a line feed ends with a line, so what follows is cut on its own. -/
theorem linesOf_closed (text rest : List Char) :
    linesOf (text ++ '\n' :: rest) = linesOf (text ++ ['\n']) ++ linesOf rest := by
  induction text with
  | nil => simp [linesOf]
  | cons c text ih =>
    simp only [List.cons_append, linesOf]
    split
    · rw [ih, List.cons_append]
    · rw [ih]
      -- The text has a line already, to which the character is put in front.
      have started : linesOf (text ++ ['\n']) ≠ [] := by
        cases text with
        | nil => simp [linesOf]
        | cons d text => simp only [List.cons_append, linesOf]; split <;> (try split) <;> simp
      cases first : linesOf (text ++ ['\n']) with
      | nil => exact absurd first started
      | cons line others => simp

theorem linesOf_line (line : List Char) (unbroken : '\n' ∉ line) :
    linesOf (line ++ ['\n']) = [line] := by
  induction line with
  | nil => simp [linesOf]
  | cons c line ih =>
    have inside : c ≠ '\n' := fun feed => unbroken (by simp [feed])
    have tail := ih fun feed => unbroken (List.mem_cons_of_mem c feed)
    simp only [List.cons_append, linesOf, if_neg inside, tail]

/-- Lines that were each closed by a line feed come back. -/
theorem linesOf_flatMap (lines : List (List Char)) (unbroken : ∀ line ∈ lines, '\n' ∉ line) :
    linesOf (lines.flatMap (· ++ ['\n'])) = lines := by
  induction lines with
  | nil => rfl
  | cons line lines ih =>
    have tail := ih fun other member => unbroken other (List.mem_cons_of_mem line member)
    simp only [List.flatMap_cons, List.append_assoc, List.cons_append, List.nil_append]
    rw [linesOf_closed, linesOf_line line (unbroken line (by simp)), tail, List.singleton_append]

theorem linesOf_break (line rest : List Char) (unbroken : '\n' ∉ line) :
    linesOf (line ++ '\n' :: rest) = line :: linesOf rest := by
  rw [linesOf_closed, linesOf_line line unbroken, List.singleton_append]

/-- Texts that are each closed by a line feed are cut one by one. -/
theorem linesOf_closedAll (texts : List (List Char)) :
    linesOf (texts.flatMap (· ++ ['\n'])) = texts.flatMap fun text => linesOf (text ++ ['\n']) := by
  induction texts with
  | nil => rfl
  | cons text texts ih =>
    simp only [List.flatMap_cons, List.append_assoc, List.cons_append, List.nil_append]
    rw [linesOf_closed, ih]

/-- A line feed is a blank, so the fields of a text are those of its lines. -/
theorem fields_linesOf {blank : Char → Bool} (feed : blank '\n' = true) (text : List Char) :
    (linesOf (text ++ ['\n'])).flatMap (fieldsWhere blank) = fieldsWhere blank text := by
  by_cases broken : '\n' ∈ text
  · obtain ⟨line, rest, same, unbroken⟩ := List.eq_append_cons_of_mem broken
    have shorter : rest.length < text.length := by
      rw [same, List.length_append, List.length_cons]
      omega
    rw [same, List.append_assoc, List.cons_append, linesOf_break line _ unbroken, List.flatMap_cons,
      fieldsWhere_cut line feed, fields_linesOf feed rest]
  · rw [linesOf_line text broken, List.flatMap_singleton]
termination_by text.length

theorem lines_unlines (lines : List String) (unbroken : ∀ line ∈ lines, '\n' ∉ line.toList) :
    Text.lines (unlines lines) = lines := by
  have characters : (unlines lines).toList = (lines.map String.toList).flatMap (· ++ ['\n']) := by
    simp [unlines, List.flatMap_map]
  rw [Text.lines, characters, linesOf_flatMap]
  · simp
  · intro line member
    obtain ⟨text, inLines, rfl⟩ := List.mem_map.mp member
    exact unbroken text inLines

theorem unifyLineEnds_eq (text : List Char) (plain : '\r' ∉ text) : unifyLineEnds text = text := by
  induction text with
  | nil => rfl
  | cons c rest ih =>
    have first : c ≠ '\r' := fun carriage => plain (by simp [carriage])
    have tail := ih fun carriage => plain (List.mem_cons_of_mem c carriage)
    rw [unifyLineEnds, tail]
    · rintro _ rfl _
      exact first rfl
    · rintro rfl
      exact first rfl

end KeyBindings.Text
