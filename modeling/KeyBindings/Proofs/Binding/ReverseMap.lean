import KeyBindings.Binding.ReverseMap
import KeyBindings.Proofs.Entries

/-!
# The reverse map as one partial map

Two stores stand behind the reverse map. This module shows that they answer like a single
partial map from valid codes to actions, and that the entries come in a fixed order without
repetition.
-/
namespace KeyBindings

/-! ### Ranges of codes -/

namespace Limits

variable {limits : Limits}

/-- Codes that are not extended stand for themselves when no pseudo-key is below one. -/
theorem slot_of_dense (positive : 1 ≤ limits.keyMin) (code : Int) (range : KeyRange)
    (found : limits.classify? code = some range) (dense : range ≠ .extended) :
    limits.slot code = code := by
  -- Only a code below zero is moved, and both dense ranges start at one or above.
  have above : 0 ≤ code := by
    unfold classify? at found
    split at found
    next bounds => omega
    · split at found
      next bounds => omega
      · split at found
        · exact absurd (Option.some.inj found).symm dense
        · cases found
  simp only [slot, if_neg (Int.not_lt.mpr above)]

/-- So a choice by the range of a code can use the code itself in place of its slot. -/
theorem match_slot {α : Type} (positive : 1 ≤ limits.keyMin) (code : Int) (invalid extended : α)
    (dense : Int → α) :
    (match limits.classify? code with
      | none => invalid
      | some .extended => extended
      | some _ => dense (limits.slot code)) =
    match limits.classify? code with
      | none => invalid
      | some .extended => extended
      | some _ => dense code := by
  cases found : limits.classify? code with
  | none => rfl
  | some range =>
    cases range with
    | extended => rfl
    | ordinary => simp only [slot_of_dense positive code _ found (by simp)]
    | pseudo => simp only [slot_of_dense positive code _ found (by simp)]

end Limits

namespace ReverseMap

variable {limits : Limits}

/-! ### Lists of entries -/

theorem lookup_insertAscending (code other : Int) (action : Action) (entries : List (Int × Action)) :
    (insertAscending code action entries).lookup other =
      if other = code then some action else entries.lookup other := by
  induction entries with
  | nil => exact Entries.lookup_cons code other action []
  | cons entry rest ih =>
    obtain ⟨first, owner⟩ := entry
    simp only [insertAscending]
    split
    · exact Entries.lookup_cons code other action _
    · split
      next equal =>
        subst equal
        simp only [Entries.lookup_cons]
        split <;> rfl
      next differ =>
        simp only [Entries.lookup_cons, ih]
        -- The entry that stays in front is no answer for the new code.
        by_cases same : other = code
        · subst same
          simp only [if_neg differ, if_true]
        · simp only [if_neg same]

theorem lookup_insertLast (code other : Int) (action : Action) (entries : List (Int × Action)) :
    (insertLast code action entries).lookup other =
      if other = code then some action else entries.lookup other := by
  induction entries with
  | nil => exact Entries.lookup_cons code other action []
  | cons entry rest ih =>
    obtain ⟨first, owner⟩ := entry
    simp only [insertLast]
    split
    next equal =>
      subst equal
      simp only [Entries.lookup_cons]
      split <;> rfl
    next differ =>
      simp only [Entries.lookup_cons, ih]
      -- The entry in front is another code, so it is asked for or passed over.
      by_cases same : other = code
      · subst same
        simp only [if_neg differ, if_true]
      · simp only [if_neg same]

theorem lookup_without (code other : Int) (entries : List (Int × Action)) :
    (without code entries).lookup other = if other = code then none else entries.lookup other :=
  Entries.lookup_filter code other entries

/-! ### Answers of the map -/

@[simp] theorem get?_empty (code : Int) : ({} : ReverseMap).get? limits code = none := by
  unfold get?
  split <;> rfl

theorem valid_of_get? (map : ReverseMap) (code : Int) (action : Action)
    (found : map.get? limits code = some action) : limits.isValid code = true := by
  cases range : limits.classify? code with
  | none => simp [get?, range] at found
  | some range => simp [Limits.isValid, *]

theorem set?_isSome (map : ReverseMap) (code : Int) (action : Action) :
    (map.set? limits code action).isSome = limits.isValid code := by
  unfold set? Limits.isValid
  split <;> simp [*]

theorem call_invalid (invalid : limits.isValid code = false) (map : ReverseMap) :
    (∀ action, map.set? limits code action = none) ∧ map.discard limits code = map ∧
      map.get? limits code = none := by
  have none : limits.classify? code = none := by simpa [Limits.isValid] using invalid
  simp [set?, discard, get?, none]

/-- The answer comes from one store, and which one it is depends on the code alone. -/
theorem get?_eq (positive : 1 ≤ limits.keyMin) (map : ReverseMap) (code : Int) :
    map.get? limits code =
      match limits.classify? code with
      | none => none
      | some .extended => map.extended.lookup code
      | some _ => map.dense.lookup code :=
  Limits.match_slot positive code none (map.extended.lookup code) fun slot => map.dense.lookup slot

theorem set?_eq (positive : 1 ≤ limits.keyMin) (map : ReverseMap) (code : Int) (action : Action) :
    map.set? limits code action =
      match limits.classify? code with
      | none => none
      | some .extended => some { map with extended := insertLast code action map.extended }
      | some _ => some { map with dense := insertAscending code action map.dense } :=
  @Limits.match_slot limits (Option ReverseMap) positive code none
    (some ⟨map.dense, insertLast code action map.extended⟩)
    fun slot => some ⟨insertAscending slot action map.dense, map.extended⟩

theorem discard_eq (positive : 1 ≤ limits.keyMin) (map : ReverseMap) (code : Int) :
    map.discard limits code =
      match limits.classify? code with
      | none => map
      | some .extended => { map with extended := without code map.extended }
      | some _ => { map with dense := without code map.dense } :=
  Limits.match_slot positive code map ⟨map.dense, without code map.extended⟩
    fun slot => ⟨without slot map.dense, map.extended⟩

theorem get?_set? (positive : 1 ≤ limits.keyMin) (map after : ReverseMap) (code other : Int)
    (action : Action) (set : map.set? limits code action = some after) :
    after.get? limits other = if other = code then some action else map.get? limits other := by
  rw [set?_eq positive] at set
  rw [get?_eq positive, get?_eq positive]
  -- One code belongs to one store, so asking for it is asking the store that was changed.
  by_cases same : other = code
  · subst same
    split at set <;> cases set <;> simp [*, lookup_insertLast, lookup_insertAscending]
  · split at set <;> cases set <;> simp [same, lookup_insertLast, lookup_insertAscending]

theorem get?_discard (positive : 1 ≤ limits.keyMin) (map : ReverseMap) (code other : Int) :
    (map.discard limits code).get? limits other =
      if other = code then none else map.get? limits other := by
  rw [discard_eq positive, get?_eq positive, get?_eq positive]
  by_cases same : other = code
  · subst same
    split <;> simp [*, lookup_without]
  · cases found : limits.classify? code with
    | none => simp [same]
    | some range => cases range <;> split <;> simp [same, lookup_without]

/-! ### Order of the entries -/

def codesOf (entries : List (Int × Action)) : List Int := entries.map Prod.fst

/-- Each code stands once, in the store of its range; the dense codes ascend. -/
structure Ordered (limits : Limits) (map : ReverseMap) : Prop where
  dense_ascending : (codesOf map.dense).Pairwise (· < ·)
  extended_distinct : (codesOf map.extended).Nodup
  dense_range : ∀ code ∈ codesOf map.dense,
    ∃ range, limits.classify? code = some range ∧ range ≠ .extended
  extended_range : ∀ code ∈ codesOf map.extended, limits.classify? code = some .extended

theorem mem_codesOf_insertAscending (code other : Int) (action : Action)
    (entries : List (Int × Action)) :
    other ∈ codesOf (insertAscending code action entries) ↔ other = code ∨ other ∈ codesOf entries := by
  induction entries with
  | nil => simp [insertAscending, codesOf]
  | cons entry rest ih =>
    obtain ⟨first, owner⟩ := entry
    simp only [insertAscending, codesOf] at ih ⊢
    split
    · simp
    · split
      next equal => simp [equal]
      next => simp only [List.map_cons, List.mem_cons, ih, or_left_comm]

theorem ascending_insertAscending (code : Int) (action : Action) (entries : List (Int × Action))
    (ascending : (codesOf entries).Pairwise (· < ·)) :
    (codesOf (insertAscending code action entries)).Pairwise (· < ·) := by
  induction entries with
  | nil => simp [insertAscending, codesOf]
  | cons entry rest ih =>
    obtain ⟨first, owner⟩ := entry
    obtain ⟨above, tail⟩ := List.pairwise_cons.mp ascending
    simp only [insertAscending]
    split
    next before =>
      refine List.pairwise_cons.mpr ⟨fun other member => ?_, ascending⟩
      rcases List.mem_cons.mp member with rfl | later
      · exact before
      · exact Int.lt_trans before (above other later)
    · split
      next equal => exact List.pairwise_cons.mpr ⟨equal ▸ above, tail⟩
      -- The code is above the first entry, and so is every entry behind it.
      next notBefore differ =>
        refine List.pairwise_cons.mpr ⟨fun other member => ?_, ih tail⟩
        rcases (mem_codesOf_insertAscending code other action rest).mp member with rfl | old
        · omega
        · exact above other old

theorem codesOf_insertLast (code : Int) (action : Action) (entries : List (Int × Action)) :
    codesOf (insertLast code action entries) =
      if code ∈ codesOf entries then codesOf entries else codesOf entries ++ [code] := by
  induction entries with
  | nil => simp [insertLast, codesOf]
  | cons entry rest ih =>
    obtain ⟨first, owner⟩ := entry
    simp only [insertLast, codesOf] at ih ⊢
    split
    next equal => simp [equal]
    next differ =>
      by_cases known : code ∈ rest.map Prod.fst <;> simp [ih, differ, known]

theorem codesOf_without (code : Int) (entries : List (Int × Action)) :
    codesOf (without code entries) = (codesOf entries).filter (· ≠ code) := by
  simp only [codesOf, without, List.filter_map]
  rfl

theorem ordered_empty (limits : Limits) : Ordered limits {} :=
  ⟨List.Pairwise.nil, List.nodup_nil, by simp [codesOf], by simp [codesOf]⟩

theorem Ordered.set? (positive : 1 ≤ limits.keyMin) {map after : ReverseMap} {code : Int}
    {action : Action} (ordered : Ordered limits map)
    (set : map.set? limits code action = some after) : Ordered limits after := by
  rw [set?_eq positive] at set
  split at set
  · cases set
  -- Only the store of the range changes; what is known of the other one stays.
  next extended =>
    cases set
    refine { ordered with extended_distinct := ?_, extended_range := ?_ }
    · rw [codesOf_insertLast]
      split
      · exact ordered.extended_distinct
      next absent =>
        refine List.nodup_append.mpr ⟨ordered.extended_distinct, by simp, ?_⟩
        rintro other old _ (_ | ⟨_, ⟨⟩⟩) rfl
        exact absent old
    · intro other member
      rw [codesOf_insertLast] at member
      split at member
      · exact ordered.extended_range other member
      · rcases List.mem_append.mp member with old | new
        · exact ordered.extended_range other old
        · exact List.mem_singleton.mp new ▸ extended
  next range dense found =>
    cases set
    refine { ordered with dense_ascending := ?_, dense_range := ?_ }
    · exact ascending_insertAscending code action map.dense ordered.dense_ascending
    · intro other member
      rcases (mem_codesOf_insertAscending code other action map.dense).mp member with rfl | old
      · exact ⟨range, found, dense⟩
      · exact ordered.dense_range other old

theorem Ordered.discard (positive : 1 ≤ limits.keyMin) {map : ReverseMap} (code : Int)
    (ordered : Ordered limits map) : Ordered limits (map.discard limits code) := by
  rw [discard_eq positive]
  split
  · exact ordered
  · refine { ordered with extended_distinct := ?_, extended_range := ?_ }
    · rw [codesOf_without]
      exact ordered.extended_distinct.filter _
    · intro other member
      rw [codesOf_without] at member
      exact ordered.extended_range other (List.mem_filter.mp member).1
  · refine { ordered with dense_ascending := ?_, dense_range := ?_ }
    · rw [codesOf_without]
      exact ordered.dense_ascending.filter _
    · intro other member
      rw [codesOf_without] at member
      exact ordered.dense_range other (List.mem_filter.mp member).1

theorem Ordered.items_distinct {map : ReverseMap} (ordered : Ordered limits map) :
    (codesOf map.items).Nodup := by
  rw [codesOf, items, List.map_append]
  refine List.nodup_append.mpr ⟨?_, ordered.extended_distinct, ?_⟩
  · exact ordered.dense_ascending.imp fun less => Int.ne_of_lt less
  -- A code in both stores would have two ranges.
  · intro code inDense other inExtended same
    obtain ⟨range, found, dense⟩ := ordered.dense_range code inDense
    have extended := ordered.extended_range other inExtended
    rw [← same, found] at extended
    exact dense (Option.some.inj extended)

theorem Ordered.mem_items_iff (positive : 1 ≤ limits.keyMin) {map : ReverseMap}
    (ordered : Ordered limits map) (code : Int) (action : Action) :
    (code, action) ∈ map.items ↔ map.get? limits code = some action := by
  -- No key stands twice in a store, so its answers are its entries.
  have inDense := Entries.lookup_eq_some_iff code action map.dense
    (ordered.dense_ascending.imp fun less => Int.ne_of_lt less)
  have inExtended := Entries.lookup_eq_some_iff code action map.extended ordered.extended_distinct
  rw [items, List.mem_append, get?_eq positive]
  have fromDense : (code, action) ∈ map.dense →
      ∃ range, limits.classify? code = some range ∧ range ≠ .extended := fun member =>
    ordered.dense_range code (List.mem_map.mpr ⟨(code, action), member, rfl⟩)
  have fromExtended : (code, action) ∈ map.extended → limits.classify? code = some .extended :=
    fun member => ordered.extended_range code (List.mem_map.mpr ⟨(code, action), member, rfl⟩)
  split
  next missing => simp_all
  next extended => simp_all
  next range dense found => simp_all

end ReverseMap

end KeyBindings
