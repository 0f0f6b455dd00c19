import KeyBindings.Action
import KeyBindings.Proofs.Key.UsualNames

/-!
# Terminals that leave keys without a name

A terminal gives each key its usual name or none. A name that no key has stands for the extended
code of its first character, so keys without a name can come to share a code: the control characters
do, whose names all start with a caret, and any two keys whose names start alike.
-/
namespace KeyBindings

namespace Terminal

/-- Each code has its usual name, or it has none. -/
def IsSparse (terminal : Terminal) : Prop :=
  ∀ code, terminal code ≠ .brokenDown ∧
    ((terminal code).name = usualName code ∨ (terminal code).name = "")

/-- The control characters among the default keys that have no short name. -/
def controlDefaults : List Nat := [1, 7, 8, 11, 12, 14, 16, 18, 19, 20, 22]

/-- Are the default keys told apart? At most one of the control characters has no name, and `K` or
the back tab, which is `KEY_BTAB`, has one. -/
def TellsDefaults (terminal : Terminal) : Prop :=
  (∀ n ∈ controlDefaults, ∀ m ∈ controlDefaults,
    (terminal n).name = "" → (terminal m).name = "" → n = m) ∧
  ((terminal 75).name ≠ "" ∨ (terminal 353).name ≠ "")

instance (terminal : Terminal) : Decidable terminal.TellsDefaults :=
  @instDecidableAnd _ _ (List.decidableBAll _ controlDefaults) inferInstance

end Terminal

namespace Keyboard

/-- A keyboard with the usual limits whose terminal gave each code its usual name or none. -/
structure IsSparse (keyboard : Keyboard) : Prop where
  limits : keyboard.limits = {}
  given : ∀ code, keyboard.given code = Terminal.usualName code ∨ keyboard.given code = ""

/-- A key without a name: the terminal gave none, and there is no short one. -/
def Lacks (keyboard : Keyboard) (n : Nat) : Prop :=
  KeyCode.shortNames.lookup (n : Int) = none ∧ keyboard.given n = ""

instance (keyboard : Keyboard) (n : Nat) : Decidable (keyboard.Lacks n) :=
  inferInstanceAs (Decidable (KeyCode.shortNames.lookup (n : Int) = none ∧ keyboard.given n = ""))

section

variable {keyboard : Keyboard} (sparse : keyboard.IsSparse)
include sparse

theorem IsSparse.keyName {n : Nat} (dense : n < 511) :
    keyboard.keyName n = if keyboard.Lacks n then "" else usual.keyName n := by
  have slot : keyboard.limits.slot n = n := if_neg (by omega)
  have below : (n : Int) < keyboard.limits.keyMax := by
    rw [sparse.limits, show ({} : Limits).keyMax = 511 from rfl]
    omega
  rw [keyName_usual n dense]
  simp only [Keyboard.keyName, slot, if_pos below]
  -- A short name takes the place of whatever the terminal says.
  cases short : KeyCode.shortNames.lookup (n : Int) with
  | some name => simp [Lacks, short]
  | none =>
    by_cases empty : keyboard.given n = ""
    · simp [Lacks, short, empty]
    · simp [Lacks, short, (sparse.given n).resolve_right empty]

/-- A usual name stands for its key when the key has it, and for an extended key otherwise. -/
theorem IsSparse.codeOf_keyName {n : Nat} {first : Char} {rest : List Char} (scanned : IsScanned n)
    (characters : (usual.keyName n).toList = first :: rest) :
    keyboard.codeOf (usual.keyName n) =
      if keyboard.Lacks n then keyboard.limits.extendedCode first else n := by
  have filled : usual.keyName n ≠ "" := fun empty => by simp [empty] at characters
  -- Whatever key has the name is this one, as no two keys share a usual name.
  have unique : ∀ code ∈ keyboard.limits.scanOrder, keyboard.keyName code = usual.keyName n →
      code = n ∧ ¬ keyboard.Lacks n := by
    intro code member same
    rw [sparse.limits] at member
    obtain ⟨m, rfl, scanned'⟩ := (mem_scanOrder code).mp member
    rw [sparse.keyName scanned'.dense] at same
    split at same
    · exact absurd same.symm filled
    next named =>
      obtain rfl := keyName_injective scanned scanned' filled same.symm
      exact ⟨rfl, named⟩
  split
  next lacks =>
    exact codeOf_of_unknown (formerNames_lookup scanned) characters fun code member same =>
      (unique code member same).2 lacks
  next named =>
    refine codeOf_of_unique filled (formerNames_lookup scanned) ?_ ?_ fun code member same =>
      (unique code member same).1
    · rw [sparse.limits]
      exact (mem_scanOrder n).mpr ⟨n, rfl, scanned⟩
    · rw [sparse.keyName scanned.dense, if_neg named]

theorem IsSparse.isValid_codeOf {name : String} (filled : name ≠ "") :
    keyboard.limits.isValid (keyboard.codeOf name) = true := by
  have scanned : ∀ n : Nat, IsScanned n → keyboard.limits.isValid n = true := by
    intro n scanned
    rw [sparse.limits, Limits.isValid]
    rcases classify?_scanned scanned with ordinary | pseudo
    · exact Option.isSome_of_eq_some ordinary
    · exact Option.isSome_of_eq_some pseudo
  -- The code comes from the former names, the scan or the first character.
  rcases @codeOf_cases keyboard name filled with ⟨code, former, same⟩ | ⟨code, member, -, same⟩ |
      ⟨first, rest, -, same⟩
  · obtain ⟨natural, isScanned, -⟩ := formerNames_scanned (name, code) former
    dsimp only at natural isScanned
    rw [same, natural]
    exact scanned _ isScanned
  · rw [sparse.limits] at member
    obtain ⟨n, rfl, isScanned⟩ := (mem_scanOrder code).mp member
    rw [same]
    exact scanned n isScanned
  · rw [same, sparse.limits]
    exact Limits.isValid_extendedCode (by decide) first

end

/-! ### The default keys -/

/-- The codes that the names of the default keys stand for usually, action by action. -/
def defaultCodes : List Nat :=
  [27, 32, 64, 63, 113, 81, 115, 83, 19, 82, 99, 112, 22, 9, 353, 105, 73, 120, 88, 103, 71, 111, 79,
   67, 18, 1, 20, 84, 8, 116, 12, 87, 11, 119, 77, 109, 89, 121, 14, 16, 7, 58, 108, 76, 261, 104,
   72, 260, 106, 74, 258, 107, 75, 259, 48, 36, 97, 65, 100, 68, 101, 69, 118, 86, 10, 124, 33, 114,
   110, 78, 62, 43, 45]

theorem defaultCodes_names :
    Action.all.flatMap Action.defaultKeys = defaultCodes.map fun (n : Nat) => usual.keyName n := by
  decide +kernel

theorem defaultKeys_filled : ∀ name ∈ Action.all.flatMap Action.defaultKeys, name ≠ "" := by
  decide +kernel

/-- The code point with which the name of a default key starts. -/
def firstPoint (n : Nat) : Nat := if n < 32 then 94 else if n = 353 then 75 else n

theorem defaultCodes_scanned : defaultCodes.Nodup ∧ ∀ n ∈ defaultCodes, IsScanned n := by
  decide

/-- A default key without a short name is a control character, the back tab, or a graphic character
other than the caret. -/
theorem defaultCodes_bare : ∀ n ∈ defaultCodes, KeyCode.shortNames.lookup (n : Int) = none →
    (usual.keyName n).toList.head?.map Char.toNat = some (firstPoint n) ∧
      (n ∈ Terminal.controlDefaults ∨ n = 353 ∨ 33 ≤ n ∧ n ≤ 126 ∧ n ≠ 94) := by
  decide +kernel

theorem controlDefaults_bare : ∀ n ∈ Terminal.controlDefaults,
    n ∈ defaultCodes ∧ KeyCode.shortNames.lookup (n : Int) = none ∧ firstPoint n = 94 := by
  decide

/-- Apart from the control characters, only the names of the key `K` and of the back tab start
alike. -/
theorem firstPoint_alike {n m : Nat} (isDefault : n ∈ defaultCodes)
    (bare : KeyCode.shortNames.lookup (n : Int) = none) (isDefault' : m ∈ defaultCodes)
    (bare' : KeyCode.shortNames.lookup (m : Int) = none) (alike : firstPoint n = firstPoint m) :
    n = m ∨ (n ∈ Terminal.controlDefaults ∧ m ∈ Terminal.controlDefaults) ∨
      (n = 75 ∧ m = 353) ∨ (n = 353 ∧ m = 75) := by
  -- A graphic character is the start of its own name.
  have value : ∀ n ∈ defaultCodes, KeyCode.shortNames.lookup (n : Int) = none →
      (n ∈ Terminal.controlDefaults ∧ firstPoint n = 94) ∨ (n = 353 ∧ firstPoint n = 75) ∨
        (n ≠ 94 ∧ firstPoint n = n) := by
    intro n isDefault bare
    rcases (defaultCodes_bare n isDefault bare).2 with control | rfl | graphic
    · exact .inl ⟨control, (controlDefaults_bare n control).2.2⟩
    · exact .inr (.inl ⟨rfl, rfl⟩)
    · refine .inr (.inr ⟨graphic.2.2, ?_⟩)
      rw [firstPoint, if_neg (by omega), if_neg (by omega)]
  rcases value n isDefault bare with ⟨control, first⟩ | first | first
  · rcases value m isDefault' bare' with ⟨control', -⟩ | first' | first'
    · exact .inr (.inl ⟨control, control'⟩)
    · omega
    · omega
  · rcases value m isDefault' bare' with ⟨-, first'⟩ | first' | first' <;> omega
  · rcases value m isDefault' bare' with ⟨-, first'⟩ | first' | first' <;> omega

section

variable {keyboard : Keyboard} (sparse : keyboard.IsSparse)
include sparse

theorem IsSparse.codeOf_default {n : Nat} (member : n ∈ defaultCodes) :
    keyboard.codeOf (usual.keyName n) = if keyboard.Lacks n then (firstPoint n : Int) + 511 else n := by
  have isDefault : usual.keyName n ∈ Action.all.flatMap Action.defaultKeys := by
    rw [defaultCodes_names]
    exact List.mem_map_of_mem member
  obtain ⟨first, rest, characters⟩ := head_of_ne_empty (defaultKeys_filled _ isDefault)
  rw [sparse.codeOf_keyName (defaultCodes_scanned.2 n member) characters]
  split
  next lacks =>
    have start := (defaultCodes_bare n member lacks.1).1
    rw [characters] at start
    rw [sparse.limits, Limits.extendedCode, ← Option.some.inj start]
  · rfl

/-- The names of the default keys stand for different keys exactly when no two keys without a name
start alike. -/
theorem IsSparse.nodup_defaults :
    ((Action.all.flatMap Action.defaultKeys).map keyboard.codeOf).Nodup ↔
      ∀ n ∈ defaultCodes, ∀ m ∈ defaultCodes, keyboard.Lacks n → keyboard.Lacks m →
        firstPoint n = firstPoint m → n = m := by
  rw [defaultCodes_names, List.map_map, List.nodup_map_iff_inj_on defaultCodes_scanned.1]
  refine forall₄_congr fun n inDefaults m alsoInDefaults => ?_
  have below := (defaultCodes_scanned.2 n inDefaults).dense
  have below' := (defaultCodes_scanned.2 m alsoInDefaults).dense
  simp only [Function.comp_apply, sparse.codeOf_default inDefaults,
    sparse.codeOf_default alsoInDefaults]
  -- Extended codes are above all others, so only two keys without a name can share a code.
  by_cases lacks : keyboard.Lacks n
  · by_cases lacks' : keyboard.Lacks m
    · simp only [lacks, lacks', if_true, true_implies]
      omega
    · simp only [lacks, lacks', if_true, if_false, false_implies, implies_true, iff_true]
      omega
  · simp only [lacks, if_false, false_implies, iff_true]
    split <;> omega

end

end Keyboard

/-! ### Keyboards of sparse terminals -/

namespace Terminal

variable {terminal : Terminal}

def keyboard (terminal : Terminal) : Keyboard := ⟨{}, fun code => (terminal code).name⟩

theorem IsSparse.make (sparse : terminal.IsSparse) :
    Keyboard.make {} terminal = .ok terminal.keyboard ∧ terminal.keyboard.IsSparse :=
  ⟨Keyboard.make_answered terminal fun code _ => (sparse code).1, rfl, fun code => (sparse code).2⟩

/-- The default keys of a sparse terminal are different exactly when it tells them apart. -/
theorem IsSparse.nodup_defaults_iff (sparse : terminal.IsSparse) :
    ((Action.all.flatMap Action.defaultKeys).map terminal.keyboard.codeOf).Nodup ↔
      terminal.TellsDefaults := by
  rw [sparse.make.2.nodup_defaults]
  constructor
  · intro apart
    constructor
    · intro n control m control' unnamed unnamed'
      obtain ⟨isDefault, bare, caret⟩ := Keyboard.controlDefaults_bare n control
      obtain ⟨isDefault', bare', caret'⟩ := Keyboard.controlDefaults_bare m control'
      exact apart n isDefault m isDefault' ⟨bare, unnamed⟩ ⟨bare', unnamed'⟩ (caret.trans caret'.symm)
    · by_contra neither
      rw [not_or, not_not, not_not] at neither
      have same := apart 75 (by decide) 353 (by decide) ⟨by decide, neither.1⟩ ⟨by decide, neither.2⟩
        (by decide)
      exact absurd same (by decide)
  · rintro ⟨controls, letter⟩ n isDefault m isDefault' ⟨bare, unnamed⟩ ⟨bare', unnamed'⟩ alike
    -- Two different keys that start alike are control characters, or one of the two pairs of `K`.
    rcases Keyboard.firstPoint_alike isDefault bare isDefault' bare' alike with
      same | ⟨control, control'⟩ | ⟨rfl, rfl⟩ | ⟨rfl, rfl⟩
    · exact same
    · exact controls n control m control' unnamed unnamed'
    · exact absurd unnamed' (letter.resolve_left (not_not.mpr unnamed))
    · exact absurd unnamed (letter.resolve_left (not_not.mpr unnamed'))

end Terminal

end KeyBindings
