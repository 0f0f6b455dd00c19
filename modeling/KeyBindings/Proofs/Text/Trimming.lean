import KeyBindings.Proofs.Text.Fields
import Mathlib.Data.List.DropRight

/-!
# Trimming and cutting

Blanks around a text, and how many of them stand between its fields, mean nothing for the fields. A text
that is trimmed first can be cut at its runs of blanks, and none of the pieces is empty.
-/
namespace KeyBindings.Text

variable {α : Type} {blank : α → Bool}

/-- A run of blanks, which may be empty. -/
def IsRun (blank : α → Bool) (run : List α) : Prop := ∀ c ∈ run, blank c = true

instance (blank : α → Bool) (run : List α) : Decidable (IsRun blank run) :=
  List.decidableBAll _ run

/-! ### Blanks around a text -/

theorem fieldsWhere_run {run : List α} (isRun : IsRun blank run) (rest : List α) :
    fieldsWhere blank (run ++ rest) = fieldsWhere blank rest := by
  induction run with
  | nil => rfl
  | cons c run ih =>
    have tail := ih fun other member => isRun other (List.mem_cons_of_mem c member)
    rw [List.cons_append, fieldsWhere_blank c _ (isRun c (by simp)), tail]

theorem fieldsWhere_only {run : List α} (isRun : IsRun blank run) : fieldsWhere blank run = [] := by
  have none := fieldsWhere_run isRun []
  rwa [List.append_nil] at none

theorem fieldsWhere_dropWhile (text : List α) :
    fieldsWhere blank (text.dropWhile blank) = fieldsWhere blank text := by
  have isRun : IsRun blank (text.takeWhile blank) := fun _ member => List.mem_takeWhile_imp member
  rw [← fieldsWhere_run isRun, List.takeWhile_append_dropWhile]

theorem fieldsWhere_rdropWhile (text : List α) :
    fieldsWhere blank (text.rdropWhile blank) = fieldsWhere blank text := by
  -- Blanks are dropped at the right, so the text is taken apart from there.
  induction text using List.reverseRecOn with
  | nil => rfl
  | append_singleton text c ih =>
    rw [List.rdropWhile_concat]
    split
    next isBlank => rw [ih, fieldsWhere_cut text isBlank, fieldsWhere, List.append_nil]
    · rfl

theorem trimWhere_eq (text : List α) :
    trimWhere blank text = (text.dropWhile blank).rdropWhile blank := rfl

theorem fieldsWhere_trimWhere (text : List α) :
    fieldsWhere blank (trimWhere blank text) = fieldsWhere blank text := by
  rw [trimWhere_eq, fieldsWhere_rdropWhile, fieldsWhere_dropWhile]

theorem head?_dropWhile_solid (text : List α) :
    ∀ c ∈ (text.dropWhile blank).head?, blank c = false := by
  intro c first
  have start : (text.dropWhile blank).head? = some c := first
  simpa [start] using List.head?_dropWhile_not blank text

theorem trimWhere_ends (blank : α → Bool) (text : List α) :
    (∀ c ∈ (trimWhere blank text).head?, blank c = false) ∧
      ∀ c ∈ (trimWhere blank text).getLast?, blank c = false := by
  constructor
  · intro c first
    -- Trimming at the right keeps the start of what trimming at the left has left.
    obtain ⟨rest, whole⟩ := List.rdropWhile_prefix blank (text.dropWhile blank)
    apply head?_dropWhile_solid text c
    rw [← whole, ← trimWhere_eq, List.head?_append, Option.mem_def.mp first, Option.some_or]
    exact Option.mem_some_self c
  · rw [trimWhere, List.getLast?_reverse]
    exact head?_dropWhile_solid _

/-! ### Cutting at runs of blanks -/

/-- The pieces of a text between its runs of blanks. A run at one end of the text has an empty piece behind
or before it. -/
def cutAtRuns (blank : α → Bool) : List α → List (List α)
  | [] => [[]]
  | c :: rest =>
    if blank c then
      if rest.head?.any blank then cutAtRuns blank rest else [] :: cutAtRuns blank rest
    else (cutAtRuns blank rest).modifyHead (c :: ·)

/-- A text that ends with a field has no empty piece, but for one before a run at its start. -/
theorem cutAtRuns_eq (text : List α) (filled : text ≠ [])
    (ends : ∀ c ∈ text.getLast?, blank c = false) :
    cutAtRuns blank text =
      if text.head?.any blank then [] :: fieldsWhere blank text else fieldsWhere blank text := by
  induction text with
  | nil => exact absurd rfl filled
  | cons c rest ih =>
    cases rest with
    | nil =>
      have solid : blank c = false := ends c rfl
      simp [cutAtRuns, fieldsWhere, solid]
    | cons d rest =>
      have tail := ih (by simp) (by simpa using ends)
      rw [cutAtRuns, tail]
      -- A run or a field goes on with the next character, or the other begins there.
      cases first : blank c <;> cases second : blank d
      · obtain ⟨field, others, cut⟩ := fieldsWhere_first d rest second
        simp [fieldsWhere.eq_def blank (c :: d :: rest), first, second, cut]
      · simp [fieldsWhere.eq_def blank (c :: d :: rest), first, second]
      · simp [fieldsWhere_blank c (d :: rest) first, first, second]
      · simp [fieldsWhere_blank c (d :: rest) first, first, second]

/-- Trimming a text and cutting it at its runs of blanks gives its fields, if it has any. -/
theorem cutAtRuns_trimWhere (text : List α) (filled : trimWhere blank text ≠ []) :
    cutAtRuns blank (trimWhere blank text) = fieldsWhere blank text := by
  obtain ⟨starts, ends⟩ := trimWhere_ends blank text
  have solid : (trimWhere blank text).head?.any blank = false := by
    cases first : (trimWhere blank text).head? with
    | none => rfl
    | some c => exact starts c first
  rw [cutAtRuns_eq _ filled ends, fieldsWhere_trimWhere, solid]
  simp

end KeyBindings.Text
