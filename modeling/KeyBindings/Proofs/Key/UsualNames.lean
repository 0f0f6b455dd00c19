import KeyBindings.Key.Keyboard
import KeyBindings.Proofs.Entries
import KeyBindings.Proofs.Key.Limits
import KeyBindings.Text.Pieces
import Mathlib.Data.List.Nodup

/-!
# The usual names of keys

Under the usual names and limits every key that has a name is found again by that name. The
exception are the extended codes of characters that have an ordinary code as well: they share
their name with it.
-/
namespace KeyBindings

/-! ### Looking a name up -/

namespace Keyboard

variable {keyboard : Keyboard} {name : String}

theorem head_of_ne_empty (filled : name ≠ "") : ∃ first rest, name.toList = first :: rest := by
  cases characters : name.toList with
  | nil => exact absurd (String.toList_eq_nil_iff.mp characters) filled
  | cons first rest => exact ⟨first, rest, rfl⟩

theorem codeOf_of_unique {code : Int} (filled : name ≠ "")
    (current : KeyCode.formerNames.lookup name = none)
    (member : code ∈ keyboard.limits.scanOrder) (named : keyboard.keyName code = name)
    (unique : ∀ other ∈ keyboard.limits.scanOrder, keyboard.keyName other = name → other = code) :
    keyboard.codeOf name = code := by
  obtain ⟨first, rest, characters⟩ := head_of_ne_empty filled
  simp only [codeOf, current, characters]
  cases found : keyboard.limits.scanOrder.find? fun code => keyboard.keyName code == name with
  | none =>
    have missed := List.find?_eq_none.mp found code member
    simp [named] at missed
  | some other =>
    have same : keyboard.keyName other = name := by simpa using List.find?_some found
    exact unique other (List.mem_of_find?_eq_some found) same

theorem codeOf_of_unknown {first : Char} {rest : List Char}
    (current : KeyCode.formerNames.lookup name = none) (characters : name.toList = first :: rest)
    (unknown : ∀ code ∈ keyboard.limits.scanOrder, keyboard.keyName code ≠ name) :
    keyboard.codeOf name = keyboard.limits.extendedCode first := by
  have missed : (keyboard.limits.scanOrder.find? fun code => keyboard.keyName code == name) = none :=
    List.find?_eq_none.mpr fun code member => by simpa using unknown code member
  simp only [codeOf, current, characters, missed, Option.getD_none]

theorem codeOf_of_known (filled : name ≠ "") (current : KeyCode.formerNames.lookup name = none)
    (known : ∃ code ∈ keyboard.limits.scanOrder, keyboard.keyName code = name) :
    ∃ code ∈ keyboard.limits.scanOrder, keyboard.keyName code = name ∧ keyboard.codeOf name = code := by
  obtain ⟨first, rest, characters⟩ := head_of_ne_empty filled
  obtain ⟨listed, member, named⟩ := known
  cases found : keyboard.limits.scanOrder.find? fun code => keyboard.keyName code == name with
  | none =>
    have missed := List.find?_eq_none.mp found listed member
    simp [named] at missed
  | some code =>
    have same : keyboard.keyName code = name := by simpa using List.find?_some found
    refine ⟨code, List.mem_of_find?_eq_some found, same, ?_⟩
    simp only [codeOf, current, characters, found, Option.getD_some]

theorem codeOf_cases (filled : name ≠ "") :
    (∃ code, (name, code) ∈ KeyCode.formerNames ∧ keyboard.codeOf name = code) ∨
    (∃ code ∈ keyboard.limits.scanOrder, keyboard.keyName code = name ∧ keyboard.codeOf name = code) ∨
    ∃ first rest, name.toList = first :: rest ∧
      keyboard.codeOf name = keyboard.limits.extendedCode first := by
  cases former : KeyCode.formerNames.lookup name with
  | some code =>
    exact .inl ⟨code, Entries.mem_of_lookup former, by simp only [codeOf, former]⟩
  | none =>
    by_cases known : ∃ code ∈ keyboard.limits.scanOrder, keyboard.keyName code = name
    · exact .inr (.inl (codeOf_of_known filled former known))
    · obtain ⟨first, rest, characters⟩ := head_of_ne_empty filled
      refine .inr (.inr ⟨first, rest, characters, ?_⟩)
      exact codeOf_of_unknown former characters fun code member named => known ⟨code, member, named⟩

end Keyboard

/-! ### Names of one character and of several -/

/-- A name of several characters without a blank. -/
def IsLongName (name : String) : Prop :=
  2 ≤ name.toList.length ∧ ∀ c ∈ name.toList, Text.isAsciiBlank c = false

instance (name : String) : Decidable (IsLongName name) :=
  @instDecidableAnd _ _ inferInstance (List.decidableBAll _ name.toList)

theorem IsLongName.ne_singleton {name : String} (long : IsLongName name) (c : Char) :
    name ≠ String.singleton c := by
  rintro rfl
  simp [IsLongName] at long

theorem isAsciiBlank_of_lt (c : Char) (above : 32 < c.toNat) : Text.isAsciiBlank c = false := by
  simp only [Text.isAsciiBlank, Bool.or_eq_false_iff, decide_eq_false_iff_not]
  refine ⟨⟨⟨⟨⟨?_, ?_⟩, ?_⟩, ?_⟩, ?_⟩, ?_⟩ <;> (rintro rfl; exact absurd above (by decide))

theorem toNat_ascii (n : Nat) (small : n < 128) : (Char.ofNat n).toNat = n := by
  have valid : n.isValidChar := by
    unfold Nat.isValidChar
    omega
  have spelled : Char.ofNat n = Char.ofNatAux n valid := dif_pos valid
  rw [spelled]
  rfl

/-- The names that are listed, and those of the function keys, are long. -/
theorem isLongName_listed :
    (∀ n < 64, IsLongName ("KEY_F" ++ toString n)) ∧
    (∀ name ∈ Terminal.namesBelowFunctionKeys ++ Terminal.namesAboveFunctionKeys.toList,
      IsLongName name) ∧
    (∀ entry ∈ KeyCode.shortNames, IsLongName entry.2) ∧
    ∀ entry ∈ KeyCode.formerNames, IsLongName entry.1 := by
  decide +kernel

namespace Terminal

theorem isLongName_control (n : Nat) (control : n < 32) :
    IsLongName (String.ofList ['^', Char.ofNat (n + 64)]) := by
  have value := toNat_ascii (n + 64) (by omega)
  refine ⟨by simp, fun c member => isAsciiBlank_of_lt c ?_⟩
  have either : c = '^' ∨ c = Char.ofNat (n + 64) := by simpa using member
  rcases either with rfl | rfl
  · decide
  · omega

/-- The usual name of a code is empty, spelled from the code, or one of those that are listed. -/
theorem usualName_forms (code : Int) :
    usualName code = "" ∨
    (∃ n : Nat, code = n ∧ n < 32 ∧ usualName code = String.ofList ['^', Char.ofNat (n + 64)]) ∨
    (∃ n : Nat, code = n ∧ 32 ≤ n ∧ n ≤ 126 ∧ usualName code = String.singleton (Char.ofNat n)) ∨
    usualName code = "^?" ∨
    (∃ n < 64, usualName code = "KEY_F" ++ toString n) ∨
    usualName code ∈ namesBelowFunctionKeys ++ namesAboveFunctionKeys.toList := by
  rcases Int.lt_or_le code 0 with negative | natural
  · exact .inl (by rw [usualName, if_pos negative])
  obtain ⟨n, rfl⟩ := Int.eq_ofNat_of_zero_le natural
  simp only [usualName, if_neg (Int.not_lt.mpr natural), Int.toNat_natCast]
  -- One case for each branch of the table, in its order.
  split
  next control => exact .inr (.inl ⟨n, rfl, control, rfl⟩)
  · split
    next low high => exact .inr (.inr (.inl ⟨n, rfl, by omega, by omega, rfl⟩))
    · split
      · exact .inr (.inr (.inr (.inl rfl)))
      · split
        · exact .inl rfl
        · split
          · rw [List.getD_eq_getElem?_getD]
            cases found : namesBelowFunctionKeys[n - 257]? with
            | none => exact .inl rfl
            | some name =>
              refine .inr (.inr (.inr (.inr (.inr ?_))))
              exact List.mem_append_left _ (List.mem_of_getElem? found)
          · split
            next counted => exact .inr (.inr (.inr (.inr (.inl ⟨n - 264, by omega, rfl⟩))))
            · rw [Array.getD_eq_getD_getElem?, ← Array.getElem?_toList]
              cases found : namesAboveFunctionKeys.toList[n - 328]? with
              | none => exact .inl rfl
              | some name =>
                refine .inr (.inr (.inr (.inr (.inr ?_))))
                exact List.mem_append_right _ (List.mem_of_getElem? found)

/-- The usual name of a code is empty, a printable character, or long. -/
theorem usualName_cases (n : Nat) :
    usualName n = "" ∨ (32 ≤ n ∧ n ≤ 126 ∧ usualName n = String.singleton (Char.ofNat n)) ∨
      IsLongName (usualName n) := by
  rcases usualName_forms n with
    empty | ⟨m, -, control, same⟩ | ⟨m, same, graphic⟩ | same | ⟨m, counted, same⟩ | listed
  · exact .inl empty
  · rw [same]
    exact .inr (.inr (isLongName_control m control))
  · obtain rfl := Int.ofNat.inj same
    exact .inr (.inl graphic)
  · rw [same]
    exact .inr (.inr (by decide))
  · rw [same]
    exact .inr (.inr (isLongName_listed.1 m counted))
  · exact .inr (.inr (isLongName_listed.2.1 _ listed))

end Terminal

namespace Keyboard

/-- The keyboard of a terminal with the usual names, under the usual limits. -/
def usual : Keyboard := ⟨{}, Terminal.usualName⟩

theorem keyMin_pos {keyboard : Keyboard} (same : keyboard = usual) : 1 ≤ keyboard.limits.keyMin := by
  rw [same]
  decide

theorem eq_of_make {limits : Limits} {terminal : Terminal} {keyboard : Keyboard}
    (made : make limits terminal = .ok keyboard) :
    keyboard = ⟨limits, fun code => (terminal code).name⟩ := by
  unfold make at made
  cases ordinary : ask limits terminal Limits.ordinaryCodes with
  | error fault => simp [ordinary, bind, Except.bind] at made
  | ok done =>
    simp only [ordinary, bind, Except.bind] at made
    split at made
    · cases made
    · exact (Except.ok.inj made).symm

/-- The codes with a short name: none is of a printable character other than the space. -/
theorem shortNames_codes :
    ∀ entry ∈ KeyCode.shortNames, entry.1 ≤ 32 ∨ 258 ≤ entry.1 ∧ entry.1 ≤ 360 := by
  decide

theorem no_shortName (n : Nat) (other : 33 ≤ n ∧ n ≤ 257 ∨ 361 ≤ n) :
    KeyCode.shortNames.lookup (n : Int) = none := by
  apply List.lookup_eq_none_iff.mpr
  intro entry member
  have bounds := shortNames_codes entry member
  have differ : (n : Int) ≠ entry.1 := by omega
  simpa using differ

theorem keyName_usual (n : Nat) (dense : n < 511) :
    usual.keyName n = (KeyCode.shortNames.lookup (n : Int)).getD (Terminal.usualName n) := by
  have slot : usual.limits.slot n = n := if_neg (by omega)
  have below : (n : Int) < usual.limits.keyMax := by
    rw [show usual.limits.keyMax = 511 from rfl]
    omega
  simp only [keyName, slot, if_pos below]
  cases KeyCode.shortNames.lookup (n : Int) <;> rfl

theorem keyName_graphic (n : Nat) (low : 33 ≤ n) (high : n ≤ 126) :
    usual.keyName n = String.singleton (Char.ofNat n) := by
  have positive : ¬ (n : Int) < 0 := by omega
  rw [keyName_usual n (by omega), no_shortName n (.inl ⟨low, by omega⟩), Option.getD_none]
  simp only [Terminal.usualName, if_neg positive, Int.toNat_natCast]
  rw [if_neg (by omega), if_pos (by omega)]

theorem keyName_cases (n : Nat) (dense : n < 511) :
    usual.keyName n = "" ∨ (33 ≤ n ∧ n ≤ 126) ∨ IsLongName (usual.keyName n) := by
  by_cases graphic : 33 ≤ n ∧ n ≤ 126
  · exact .inr (.inl graphic)
  rw [keyName_usual n dense]
  cases found : KeyCode.shortNames.lookup (n : Int) with
  | some name =>
    exact .inr (.inr (isLongName_listed.2.2.1 (n, name) (Entries.mem_of_lookup found)))
  | none =>
    rcases Terminal.usualName_cases n with empty | ⟨low, high, -⟩ | long
    · exact .inl empty
    · obtain rfl : n = 32 := by omega
      -- The space is the one printable character with a short name.
      cases found
    · exact .inr (.inr long)

/-! ### Every name is of one key -/

/-- The codes that a name is looked up among. -/
def IsScanned (n : Nat) : Prop := 1 ≤ n ∧ n ≤ 127 ∨ 257 ≤ n ∧ n < 511

instance (n : Nat) : Decidable (IsScanned n) :=
  inferInstanceAs (Decidable (1 ≤ n ∧ n ≤ 127 ∨ 257 ≤ n ∧ n < 511))

theorem IsScanned.dense {n : Nat} (scanned : IsScanned n) : n < 511 := by
  unfold IsScanned at scanned
  omega

theorem mem_scanOrder (code : Int) :
    code ∈ usual.limits.scanOrder ↔ ∃ n : Nat, code = n ∧ IsScanned n := by
  have start : usual.limits.keyMin = 257 := rfl
  have count : (usual.limits.keyMax - 257).toNat = 254 := rfl
  simp only [Limits.scanOrder, Limits.ordinaryCodes, Limits.pseudoCodes, start, count,
    List.mem_append, List.mem_map, List.mem_range]
  constructor
  · rintro (⟨n, bound, rfl⟩ | ⟨n, bound, rfl⟩)
    · exact ⟨n + 1, by omega, .inl (by omega)⟩
    · exact ⟨n + 257, by omega, .inr (by omega)⟩
  · rintro ⟨n, rfl, ordinary | pseudo⟩
    · exact .inl ⟨n - 1, by omega, by omega⟩
    · exact .inr ⟨n - 257, by omega, by omega⟩

theorem ask_ok (limits : Limits) (terminal : Terminal) (codes : List Int)
    (answers : ∀ code ∈ codes, terminal code ≠ .brokenDown ∧ limits.hasSlot code = true) :
    ask limits terminal codes = .ok () := by
  induction codes with
  | nil => rfl
  | cons code rest ih =>
    obtain ⟨answered, slot⟩ := answers code List.mem_cons_self
    rw [ask, if_neg answered, if_pos slot]
    exact ih fun other member => answers other (List.mem_cons_of_mem _ member)

theorem make_answered (terminal : Terminal)
    (answers : ∀ code ∈ usual.limits.scanOrder, terminal code ≠ .brokenDown) :
    make {} terminal = .ok ⟨{}, fun code => (terminal code).name⟩ := by
  have asked : ∀ codes : List Int, (∀ code ∈ codes, code ∈ usual.limits.scanOrder) →
      ask {} terminal codes = .ok () := by
    intro codes scanned
    refine ask_ok _ _ _ fun code member => ⟨answers code (scanned code member), ?_⟩
    obtain ⟨n, rfl, isScanned⟩ := (mem_scanOrder code).mp (scanned code member)
    have dense := isScanned.dense
    simp only [Limits.hasSlot, Bool.and_eq_true, decide_eq_true_eq]
    omega
  have ordinary := asked Limits.ordinaryCodes fun _ member => List.mem_append_left _ member
  have pseudo := asked (Limits.pseudoCodes {}) fun _ member => List.mem_append_right _ member
  have inOrder : ¬ ((257 : Int) < -511 ∧ (257 : Int) < 511) := by decide
  rw [make, ordinary, if_neg inOrder]
  simp only [bind, Except.bind, pseudo]
  rfl

/-- A terminal with the usual names answers every question. -/
theorem make_usual : make {} Terminal.usual = .ok usual :=
  make_answered Terminal.usual fun _ _ => by simp [Terminal.usual]

/-- The last key of the terminal with a name is the resize. -/
theorem keyName_unnamed (n : Nat) (last : 411 ≤ n) (dense : n < 511) : usual.keyName n = "" := by
  have positive : ¬ (n : Int) < 0 := by omega
  rw [keyName_usual n dense, no_shortName n (.inr (by omega)), Option.getD_none]
  simp only [Terminal.usualName, if_neg positive, Int.toNat_natCast]
  rw [if_neg (by omega), if_neg (by omega), if_neg (by omega), if_neg (by omega), if_neg (by omega),
    if_neg (by omega)]
  have beyond : Terminal.namesAboveFunctionKeys.size ≤ n - 328 := by
    rw [show Terminal.namesAboveFunctionKeys.size = 83 from rfl]
    omega
  rw [Array.getD_eq_getD_getElem?, Array.getElem?_eq_none beyond, Option.getD_none]

/-- The keys that can have a long name. -/
def longCodes : List Nat := List.range 33 ++ 127 :: (List.range 154).map (· + 257)

/-- The octets of a name as digits of one number, which is quick to compare. -/
def numberOf (name : String) : Nat :=
  name.toByteArray.data.toList.foldl (fun number octet => number * 256 + octet.toNat) 0

/-- No two long names are equal, and none is a former name or the mark for no keys. -/
theorem longNames_distinct :
    ((longCodes.map fun (n : Nat) => numberOf (usual.keyName n)) ++
      (KeyCode.formerNames.map fun entry => numberOf entry.1) ++ [numberOf "UNDEFINED"]).Nodup := by
  decide +kernel

theorem mem_longCodes {n : Nat} (scanned : IsScanned n) (long : IsLongName (usual.keyName n)) :
    n ∈ longCodes := by
  -- A name of one character is not long, and behind the resize there are no names.
  have noGraphic : ¬ (33 ≤ n ∧ n ≤ 126) := fun bounds =>
    long.ne_singleton _ (keyName_graphic n bounds.1 bounds.2)
  have below : n < 411 := by
    by_contra above
    rw [keyName_unnamed n (by omega) scanned.dense] at long
    exact absurd long (by decide)
  simp only [longCodes, List.mem_append, List.mem_range, List.mem_cons, List.mem_map]
  unfold IsScanned at scanned
  by_cases control : n < 33
  · exact .inl control
  · by_cases last : n = 127
    · exact .inr (.inl last)
    · exact .inr (.inr ⟨n - 257, by omega, by omega⟩)

theorem keyName_injective {n m : Nat} (first : IsScanned n) (second : IsScanned m)
    (named : usual.keyName n ≠ "") (same : usual.keyName n = usual.keyName m) : n = m := by
  rcases keyName_cases n first.dense with empty | graphic | long
  · exact absurd empty named
  · rcases keyName_cases m second.dense with empty | graphic' | long
    · exact absurd (same.trans empty) named
    · rw [keyName_graphic n graphic.1 graphic.2, keyName_graphic m graphic'.1 graphic'.2] at same
      -- Two characters are the same name only when they are the same.
      have equal := congrArg Char.toNat (String.singleton_inj.mp same)
      rwa [toNat_ascii n (by omega), toNat_ascii m (by omega)] at equal
    · rw [keyName_graphic n graphic.1 graphic.2] at same
      exact absurd same.symm (long.ne_singleton _)
  · have long' : IsLongName (usual.keyName m) := same ▸ long
    -- Long names are told apart by the table.
    have distinct := (List.nodup_append.mp (List.nodup_append.mp longNames_distinct).1).1
    exact List.inj_on_of_nodup_map distinct (mem_longCodes first long) (mem_longCodes second long')
      (congrArg numberOf same)

theorem formerNames_scanned : ∀ entry ∈ KeyCode.formerNames,
    entry.2 = entry.2.toNat ∧ IsScanned entry.2.toNat ∧ usual.keyName entry.2 ≠ "" := by
  decide

theorem formerNames_lookup {n : Nat} (scanned : IsScanned n) :
    KeyCode.formerNames.lookup (usual.keyName n) = none := by
  cases former : KeyCode.formerNames.lookup (usual.keyName n) with
  | none => rfl
  | some code =>
    have member := Entries.mem_of_lookup former
    have long : IsLongName (usual.keyName n) := isLongName_listed.2.2.2 _ member
    have apart := (List.nodup_append.mp (List.nodup_append.mp longNames_distinct).1).2.2
    exact absurd rfl (apart _ (List.mem_map_of_mem (mem_longCodes scanned long)) _
      (List.mem_map_of_mem member))

theorem keyName_ne_mark {n : Nat} (scanned : IsScanned n) : usual.keyName n ≠ "UNDEFINED" := by
  intro marked
  have long : IsLongName (usual.keyName n) := by
    rw [marked]
    decide
  have apart := (List.nodup_append.mp longNames_distinct).2.2
  refine apart _ (List.mem_append_left _ (List.mem_map_of_mem (mem_longCodes scanned long))) _
    List.mem_cons_self ?_
  rw [marked]

/-! ### Names read back -/

theorem codeOf_keyName {n : Nat} (scanned : IsScanned n) (named : usual.keyName n ≠ "") :
    usual.codeOf (usual.keyName n) = n := by
  refine codeOf_of_unique named (formerNames_lookup scanned) ((mem_scanOrder n).mpr ⟨n, rfl, scanned⟩)
    rfl fun other member same => ?_
  obtain ⟨m, rfl, scanned'⟩ := (mem_scanOrder other).mp member
  rw [keyName_injective scanned scanned' named same.symm]

/-- A character that a key of its own has. -/
def IsGraphic (c : Char) : Prop := '!' ≤ c ∧ c ≤ '~'

theorem isGraphic_iff (c : Char) : IsGraphic c ↔ 33 ≤ c.toNat ∧ c.toNat ≤ 126 := by
  simp only [IsGraphic, Char.le_def, UInt32.le_iff_toNat_le]
  rfl

theorem codeOf_graphic {c : Char} (graphic : IsGraphic c) :
    usual.codeOf (String.singleton c) = c.toNat := by
  obtain ⟨low, high⟩ := (isGraphic_iff c).mp graphic
  have name := keyName_graphic c.toNat low high
  rw [Char.ofNat_toNat] at name
  have named : usual.keyName c.toNat ≠ "" := by
    rw [name]
    exact fun empty => absurd (congrArg String.toList empty) (by simp)
  have back := codeOf_keyName (.inl ⟨by omega, by omega⟩) named
  rwa [name] at back

theorem formerNames_singleton (c : Char) : KeyCode.formerNames.lookup (String.singleton c) = none := by
  cases former : KeyCode.formerNames.lookup (String.singleton c) with
  | none => rfl
  | some code =>
    have long := isLongName_listed.2.2.2 _ (Entries.mem_of_lookup former)
    exact absurd rfl (long.ne_singleton c)

/-- Any other character names its extended code. -/
theorem codeOf_extended {c : Char} (other : ¬ IsGraphic c) :
    usual.codeOf (String.singleton c) = usual.limits.extendedCode c := by
  refine codeOf_of_unknown (formerNames_singleton c) (String.toList_singleton c) fun code member => ?_
  obtain ⟨n, rfl, scanned⟩ := (mem_scanOrder code).mp member
  rcases keyName_cases n scanned.dense with empty | graphic | long
  · rw [empty]
    intro same
    exact absurd (congrArg String.toList same) (by simp)
  · rw [keyName_graphic n graphic.1 graphic.2]
    intro same
    have equal := congrArg Char.toNat (String.singleton_inj.mp same)
    rw [toNat_ascii n (by omega)] at equal
    exact other ((isGraphic_iff c).mpr (by omega))
  · exact long.ne_singleton c

theorem codeOf_senseless {name : String} {first : Char} {rest : List Char} (long : IsLongName name)
    (current : KeyCode.formerNames.lookup name = none) (characters : name.toList = first :: rest)
    (unknown : ∀ n ∈ longCodes, numberOf (usual.keyName n) ≠ numberOf name) :
    usual.codeOf name = usual.limits.extendedCode first := by
  apply codeOf_of_unknown current characters
  intro code member same
  obtain ⟨n, rfl, scanned⟩ := (mem_scanOrder code).mp member
  exact unknown n (mem_longCodes scanned (same ▸ long)) (congrArg numberOf same)

/-! ### What names stand for -/

theorem classify?_scanned {n : Nat} (scanned : IsScanned n) :
    usual.limits.classify? n = some .ordinary ∨ usual.limits.classify? n = some .pseudo := by
  simp only [Limits.classify?, usual, ordinaryMax]
  rcases scanned with ordinary | pseudo
  · exact .inl (if_pos (by omega))
  · exact .inr ((if_neg (by omega)).trans (if_pos (by omega)))

section

variable {keyboard : Keyboard} (usualLimits : keyboard.limits = {})
include usualLimits

theorem classify?_listed {n : Nat} (scanned : IsScanned n) :
    keyboard.limits.classify? n = some .ordinary ∨ keyboard.limits.classify? n = some .pseudo := by
  rw [usualLimits]
  exact classify?_scanned scanned

theorem nameOf?_listed {n : Nat} (scanned : IsScanned n) (named : keyboard.keyName n ≠ "") :
    keyboard.nameOf? n = some (keyboard.keyName n) := by
  rcases classify?_listed usualLimits scanned with ordinary | pseudo
  · simp only [nameOf?, ordinary, if_neg named]
  · simp only [nameOf?, pseudo, if_neg named]

theorem nameOf?_character (c : Char) :
    keyboard.nameOf? (keyboard.limits.extendedCode c) = some (String.singleton c) := by
  have roomy : 127 < keyboard.limits.keyMax := by
    rw [usualLimits]
    decide
  have point : (keyboard.limits.extendedCode c - keyboard.limits.keyMax).toNat = c.toNat := by
    simp only [Limits.extendedCode]
    omega
  simp only [nameOf?, Limits.classify?_extendedCode roomy, point, Char.ofNat_toNat]

end

theorem nameOf?_scanned {n : Nat} (scanned : IsScanned n) (named : usual.keyName n ≠ "") :
    usual.nameOf? n = some (usual.keyName n) :=
  nameOf?_listed rfl scanned named

theorem nameOf?_extended (c : Char) :
    usual.nameOf? (usual.limits.extendedCode c) = some (String.singleton c) :=
  nameOf?_character rfl c

theorem isValid_of_named {code : Int} {name : String} (named : usual.nameOf? code = some name) :
    usual.limits.isValid code = true := by
  cases found : usual.limits.classify? code with
  | none => simp [nameOf?, found] at named
  | some range => exact Option.isSome_of_eq_some found

/-- A code whose name stands for another code: that of an extended key with a character that a key
of its own has. -/
def IsShadowed (code : Int) : Prop := ∃ c, IsGraphic c ∧ code = usual.limits.extendedCode c

/-- A key is shown by a field that is not the mark for no keys, and that stands for the key again
unless the key is shadowed. -/
structure Shows (code : Int) (shown : String) : Prop where
  named : usual.nameOf? code = some shown
  solid : ∀ c ∈ shown.toList, Text.isAsciiBlank c = false
  unmarked : shown ≠ "UNDEFINED"
  back : usual.codeOf shown = code ∨ IsShadowed code

theorem shows_scanned {n : Nat} (scanned : IsScanned n) (named : usual.keyName n ≠ "") :
    Shows n (usual.keyName n) := by
  have solid : ∀ c ∈ (usual.keyName n).toList, Text.isAsciiBlank c = false := by
    rcases keyName_cases n scanned.dense with empty | graphic | long
    · exact absurd empty named
    · rw [keyName_graphic n graphic.1 graphic.2, String.toList_singleton]
      intro c member
      obtain rfl := List.mem_singleton.mp member
      apply isAsciiBlank_of_lt
      rw [toNat_ascii n (by omega)]
      omega
    · exact long.2
  exact ⟨nameOf?_scanned scanned named, solid, keyName_ne_mark scanned,
    .inl (codeOf_keyName scanned named)⟩

theorem shows_extended {c : Char} (solid : Text.isAsciiBlank c = false) :
    Shows (usual.limits.extendedCode c) (String.singleton c) := by
  refine ⟨nameOf?_extended c, ?_, ?_, ?_⟩
  · rw [String.toList_singleton]
    intro other member
    rw [List.mem_singleton.mp member]
    exact solid
  · intro marked
    have length := congrArg (fun text => text.toList.length) marked
    rw [String.toList_singleton, List.length_singleton] at length
    exact absurd length (by decide)
  · -- The scan finds the ordinary key of a character before the extended code is formed.
    by_cases graphic : IsGraphic c
    · exact .inr ⟨c, graphic, rfl⟩
    · exact .inl (codeOf_extended graphic)

/-- What a field stands for is shown by a field. -/
theorem shows_codeOf {name : String} (filled : name ≠ "")
    (solid : ∀ c ∈ name.toList, Text.isAsciiBlank c = false) :
    ∃ shown, Shows (usual.codeOf name) shown := by
  rcases @codeOf_cases usual name filled with ⟨code, former, same⟩ | ⟨code, member, named, same⟩ |
      ⟨first, rest, characters, same⟩
  · obtain ⟨natural, scanned, named⟩ := formerNames_scanned (name, code) former
    dsimp only at natural scanned named
    rw [natural] at same named
    exact ⟨_, same ▸ shows_scanned scanned named⟩
  · obtain ⟨n, rfl, scanned⟩ := (mem_scanOrder code).mp member
    exact ⟨_, same ▸ shows_scanned scanned (named ▸ filled)⟩
  · exact ⟨_, same ▸ shows_extended (solid first (by simp [characters]))⟩

theorem scanned_of_classify? {code : Int} {range : KeyRange}
    (found : usual.limits.classify? code = some range) (dense : range ≠ .extended) :
    ∃ n : Nat, code = n ∧ IsScanned n := by
  have start : usual.limits.keyMin = 257 := rfl
  have stop : usual.limits.keyMax = 511 := rfl
  rw [Limits.classify?, start, stop] at found
  refine ⟨code.toNat, ?_⟩
  split at found
  next bounds =>
    unfold ordinaryMax at bounds
    exact ⟨by omega, .inl (by omega)⟩
  · split at found
    next bounds => exact ⟨by omega, .inr (by omega)⟩
    · split at found
      · exact absurd (Option.some.inj found).symm dense
      · cases found

theorem not_isShadowed_of_scanned {n : Nat} (scanned : IsScanned n) : ¬ IsShadowed n := by
  rintro ⟨c, -, same⟩
  have value : usual.limits.extendedCode c = c.toNat + 511 := rfl
  unfold IsScanned at scanned
  omega

/-- Where a name comes from: an extended key is named by its character, any other by the table. -/
theorem nameOf?_forms {keyboard : Keyboard} (usualLimits : keyboard.limits = {}) {code : Int}
    {name : String} (named : keyboard.nameOf? code = some name) :
    (∃ c, code = keyboard.limits.extendedCode c ∧ name = String.singleton c) ∨
    ∃ n : Nat, code = n ∧ IsScanned n ∧ keyboard.keyName n ≠ "" ∧ name = keyboard.keyName n := by
  cases found : keyboard.limits.classify? code with
  | none => simp [nameOf?, found] at named
  | some range =>
    by_cases extended : range = .extended
    · rw [extended] at found
      obtain ⟨c, rfl⟩ := Limits.exists_char_of_extended found
      rw [nameOf?_character usualLimits] at named
      exact .inl ⟨c, rfl, (Option.some.inj named).symm⟩
    · have here := found
      rw [usualLimits] at here
      obtain ⟨n, rfl, scanned⟩ := scanned_of_classify? here extended
      have filled : keyboard.keyName n ≠ "" := by
        intro empty
        cases range with
        | extended => exact extended rfl
        | ordinary => simp [nameOf?, found, empty] at named
        | pseudo => simp [nameOf?, found, empty] at named
      rw [nameOf?_listed usualLimits scanned filled] at named
      exact .inr ⟨n, rfl, scanned, filled, (Option.some.inj named).symm⟩

theorem nameOf?_cases {code : Int} {name : String} (named : usual.nameOf? code = some name) :
    (∃ c, code = usual.limits.extendedCode c ∧ name = String.singleton c) ∨
    ∃ n : Nat, code = n ∧ IsScanned n ∧ usual.keyName n ≠ "" ∧ name = usual.keyName n :=
  nameOf?_forms rfl named

/-- What a name of a key stands for has that name, though it may be another key. -/
theorem nameOf?_codeOf {code : Int} {name : String} (named : usual.nameOf? code = some name) :
    usual.nameOf? (usual.codeOf name) = some name := by
  rcases nameOf?_cases named with ⟨c, rfl, rfl⟩ | ⟨n, rfl, scanned, filled, rfl⟩
  · by_cases graphic : IsGraphic c
    · obtain ⟨low, high⟩ := (isGraphic_iff c).mp graphic
      have shown := keyName_graphic c.toNat low high
      rw [Char.ofNat_toNat] at shown
      have filled : usual.keyName c.toNat ≠ "" := by
        rw [shown]
        exact fun empty => absurd (congrArg String.toList empty) (by simp)
      rw [codeOf_graphic graphic, nameOf?_scanned (.inl ⟨by omega, by omega⟩) filled, shown]
    · rw [codeOf_extended graphic]
      exact nameOf?_extended c
  · rw [codeOf_keyName scanned filled]
    exact nameOf?_scanned scanned filled

theorem name_ne_mark {code : Int} : usual.nameOf? code ≠ some "UNDEFINED" := by
  intro marked
  rcases nameOf?_cases marked with ⟨c, -, same⟩ | ⟨n, -, scanned, -, same⟩
  · have length := congrArg (fun text => text.toList.length) same
    rw [String.toList_singleton, List.length_singleton] at length
    exact absurd length (by decide)
  · exact keyName_ne_mark scanned same.symm

/-- Names of keys that stand for the same key are the same. -/
theorem name_eq_of_codeOf {code other : Int} {name name' : String}
    (named : usual.nameOf? code = some name) (named' : usual.nameOf? other = some name')
    (same : usual.codeOf name = usual.codeOf name') : name = name' := by
  have back := nameOf?_codeOf named
  rw [same, nameOf?_codeOf named'] at back
  exact (Option.some.inj back).symm

/-- No name of a key stands for a shadowed key. -/
theorem not_isShadowed_codeOf {code : Int} {name : String} (named : usual.nameOf? code = some name) :
    ¬ IsShadowed (usual.codeOf name) := by
  rcases nameOf?_cases named with ⟨c, rfl, rfl⟩ | ⟨n, rfl, scanned, filled, rfl⟩
  · by_cases graphic : IsGraphic c
    · rw [codeOf_graphic graphic]
      have bounds := (isGraphic_iff c).mp graphic
      exact not_isShadowed_of_scanned (.inl ⟨by omega, by omega⟩)
    · rw [codeOf_extended graphic]
      rintro ⟨other, graphic', same⟩
      have equal : c.toNat = other.toNat := by
        simp only [Limits.extendedCode] at same
        omega
      exact graphic (Char.toNat_inj.mp equal ▸ graphic')
  · rw [codeOf_keyName scanned filled]
    exact not_isShadowed_of_scanned scanned

end Keyboard

end KeyBindings
