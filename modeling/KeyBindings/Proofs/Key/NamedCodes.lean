import KeyBindings.Proofs.Key.SparseNames

/-!
# The codes that names stand for

Every name stands for a code, and on a keyboard that can be made the code of a default key is a key
code. Under the usual limits so is the code of every name.
-/
namespace KeyBindings.Keyboard

variable {limits : Limits} {terminal : Terminal} {keyboard : Keyboard} {name : String}

theorem hasSlot_of_ask (codes : List Int) (asked : ask limits terminal codes = .ok ()) :
    ∀ code ∈ codes, limits.hasSlot code = true := by
  induction codes with
  | nil => simp
  | cons code rest ih =>
    unfold ask at asked
    split at asked
    · cases asked
    · split at asked
      next slot =>
        intro other member
        rcases List.mem_cons.mp member with rfl | later
        · exact slot
        · exact ih asked other later
      · cases asked

/-- A keyboard has a place for every ordinary code, so the extended codes begin above them. -/
theorem roomy_of_make (made : make limits terminal = .ok keyboard) : 127 < keyboard.limits.keyMax := by
  rw [eq_of_make made]
  unfold make at made
  cases asked : ask limits terminal Limits.ordinaryCodes with
  | error fault => simp [asked, bind, Except.bind] at made
  | ok done =>
    -- The keyboard was asked for a place for 127, the last ordinary code, too.
    have last := hasSlot_of_ask _ asked 127 (by decide)
    simp only [Limits.hasSlot, Bool.and_eq_true, decide_eq_true_eq] at last
    exact last.2

/-- Only the code of a former name is fixed, so it alone may lie outside the limits. -/
theorem isValid_codeOf_of_fits (roomy : 127 < keyboard.limits.keyMax) (filled : name ≠ "")
    (fits : ∀ entry ∈ KeyCode.formerNames, entry.1 = name → keyboard.limits.isValid entry.2 = true) :
    keyboard.limits.isValid (keyboard.codeOf name) = true := by
  rcases @codeOf_cases keyboard name filled with ⟨code, former, same⟩ | ⟨code, scanned, -, same⟩ |
      ⟨first, rest, -, same⟩
  · rw [same]
    exact fits _ former rfl
  · rw [same]
    exact Limits.isValid_of_mem_scanOrder code scanned
  · rw [same]
    exact Limits.isValid_extendedCode roomy first

theorem isValid_codeOf (roomy : 127 < keyboard.limits.keyMax) (filled : name ≠ "")
    (current : ∀ entry ∈ KeyCode.formerNames, entry.1 ≠ name) :
    keyboard.limits.isValid (keyboard.codeOf name) = true :=
  isValid_codeOf_of_fits roomy filled fun entry former same => absurd same (current entry former)

theorem isValid_codeOf_usual (usual : keyboard.limits = {}) (name : String) :
    keyboard.limits.isValid (keyboard.codeOf name) = true := by
  -- The codes of former names are fixed, and all of them are key codes here.
  have former : ∀ entry ∈ KeyCode.formerNames, ({} : Limits).isValid entry.2 = true := by decide
  by_cases empty : name = ""
  case pos =>
    have first : keyboard.codeOf name = keyboard.limits.keyMax := by
      rw [empty]
      rfl
    rw [first, usual]
    decide
  refine isValid_codeOf_of_fits (by rw [usual]; decide) empty fun entry listed _ => ?_
  rw [usual]
  exact former entry listed

theorem defaultKeys_current : ∀ name ∈ Action.all.flatMap Action.defaultKeys,
    ∀ entry ∈ KeyCode.formerNames, entry.1 ≠ name := by
  decide +kernel

theorem isValid_defaultKey (made : make limits terminal = .ok keyboard) {action : Action}
    (isKey : name ∈ action.defaultKeys) : keyboard.limits.isValid (keyboard.codeOf name) = true := by
  have isDefault := List.mem_flatMap.mpr ⟨action, Action.mem_all action, isKey⟩
  exact isValid_codeOf (roomy_of_make made) (defaultKeys_filled name isDefault)
    (defaultKeys_current name isDefault)

/-! ### Names of code points -/

/-- A name with a surrogate in it stands for the code of its first code point. -/
theorem codeOfPoints_cases (keyboard : Keyboard) (name : Text.Points) :
    (∃ text : String, name = text) ∨
    (∃ c rest, name = .scalar c :: rest ∧ keyboard.codeOfPoints name = keyboard.limits.extendedCode c) ∨
    ∃ half rest, name = .surrogate half :: rest ∧
      keyboard.codeOfPoints name = keyboard.limits.keyMax + half.unit := by
  -- A name without lone surrogates is a string; another one starts with a half or not.
  cases found : Text.string? name with
  | some text => exact .inl ⟨text, Text.string?_eq_some_iff.mp found⟩
  | none =>
    right
    cases name with
    | nil => cases found
    | cons point rest =>
      cases point with
      | scalar c =>
        refine .inl ⟨c, rest, rfl, ?_⟩
        simp only [codeOfPoints, found]
        exact Int.add_comm _ _
      | surrogate half =>
        refine .inr ⟨half, rest, rfl, ?_⟩
        simp only [codeOfPoints, found]
        rfl

/-- Under the usual limits a name stands for a key code unless it begins with a surrogate. -/
theorem isValid_codeOfPoints_usual (usual : keyboard.limits = {}) (name : Text.Points) :
    keyboard.limits.isValid (keyboard.codeOfPoints name) =
      (name.head?.bind Text.CodePoint.surrogate?).isNone := by
  have roomy : 127 < keyboard.limits.keyMax := by
    rw [usual]
    decide
  rcases keyboard.codeOfPoints_cases name with ⟨text, rfl⟩ | ⟨c, rest, rfl, code⟩ | ⟨half, rest, rfl, code⟩
  · have begins : ((Text.points text).head?.bind Text.CodePoint.surrogate?) = none := by
      cases first : text.toList <;> simp [Text.points, first, Text.CodePoint.surrogate?]
    rw [codeOfPoints_points, isValid_codeOf_usual usual, begins]
    rfl
  · rw [code, Limits.isValid_extendedCode roomy]
    rfl
  · rw [code, Limits.isValid_surrogate roomy]
    rfl

end KeyBindings.Keyboard
