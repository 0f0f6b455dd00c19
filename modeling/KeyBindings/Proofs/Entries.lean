import Mathlib.Data.List.Nodup

/-!
# Lists of entries

A list of keys with values answers with the value of the first entry that has the key.
-/
namespace KeyBindings.Entries

variable {α β : Type} [BEq α] [LawfulBEq α] [DecidableEq α]

theorem lookup_cons (key other : α) (value : β) (entries : List (α × β)) :
    ((key, value) :: entries).lookup other = if other = key then some value else entries.lookup other := by
  by_cases same : other = key
  · simp [same]
  · have test : (other == key) = false := beq_eq_false_iff_ne.mpr same
    simp only [List.lookup_cons, test, if_neg same]

theorem lookup_filter (key other : α) (entries : List (α × β)) :
    (entries.filter fun entry => entry.1 ≠ key).lookup other =
      if other = key then none else entries.lookup other := by
  induction entries with
  | nil => simp
  | cons entry rest ih =>
    obtain ⟨first, value⟩ := entry
    -- An entry with the key goes, and the answer for that key comes from further back, if at all.
    by_cases removed : first = key
    · subst removed
      rw [List.filter_cons_of_neg (by simp), ih, lookup_cons]
      split <;> rfl
    · rw [List.filter_cons_of_pos (by simpa using removed), lookup_cons, lookup_cons, ih]
      by_cases same : other = key
      · subst same
        simp only [if_neg (Ne.symm removed), if_true]
      · simp only [if_neg same]

omit [DecidableEq α] in
theorem mem_of_lookup {key : α} {value : β} {entries : List (α × β)}
    (found : entries.lookup key = some value) : (key, value) ∈ entries := by
  obtain ⟨before, after, listed, -⟩ := List.lookup_eq_some_iff.mp found
  rw [listed]
  exact List.mem_append_right _ List.mem_cons_self

theorem lookup_eq_some_iff (key : α) (value : β) (entries : List (α × β))
    (distinct : (entries.map Prod.fst).Nodup) :
    entries.lookup key = some value ↔ (key, value) ∈ entries := by
  induction entries with
  | nil => simp
  | cons entry rest ih =>
    obtain ⟨first, held⟩ := entry
    obtain ⟨absent, tail⟩ := List.nodup_cons.mp distinct
    rw [lookup_cons, List.mem_cons, ← ih tail]
    by_cases same : key = first
    · subst same
      -- The key cannot come again, so the first entry is the only one.
      have gone : rest.lookup key ≠ some value := fun found =>
        absent (List.mem_map.mpr ⟨(key, value), (ih tail).mp found, rfl⟩)
      simp [gone, eq_comm]
    · simp [same]

/-! ### Putting a value -/

def put (key : α) (value : β) : List (α × β) → List (α × β)
  | [] => [(key, value)]
  | (other, old) :: rest =>
    if other = key then (key, value) :: rest else (other, old) :: put key value rest

theorem lookup_put (key other : α) (value : β) (entries : List (α × β)) :
    (put key value entries).lookup other =
      if other = key then some value else entries.lookup other := by
  induction entries with
  | nil => exact lookup_cons key other value []
  | cons first rest ih =>
    obtain ⟨held, old⟩ := first
    -- The name is put where it stands, else behind the entries.
    by_cases here : held = key
    · subst here
      rw [put, if_pos rfl, lookup_cons, lookup_cons]
      split <;> rfl
    · rw [put, if_neg here, lookup_cons, lookup_cons, ih]
      by_cases same : other = held
      · subst same
        rw [if_pos rfl, if_neg here, if_pos rfl]
      · simp only [if_neg same]

theorem keys_put (key : α) (value : β) (entries : List (α × β)) :
    (put key value entries).map Prod.fst =
      if key ∈ entries.map Prod.fst then entries.map Prod.fst
      else entries.map Prod.fst ++ [key] := by
  induction entries with
  | nil => rfl
  | cons first rest ih =>
    obtain ⟨held, old⟩ := first
    by_cases here : held = key
    · subst here
      simp [put]
    · rw [put, if_neg here, List.map_cons, ih]
      by_cases later : key ∈ rest.map Prod.fst <;> simp [later, Ne.symm here]

theorem nodup_keys_put (key : α) (value : β) {entries : List (α × β)}
    (distinct : (entries.map Prod.fst).Nodup) : ((put key value entries).map Prod.fst).Nodup := by
  rw [keys_put]
  split
  · exact distinct
  next absent =>
    refine List.nodup_append.mpr ⟨distinct, List.nodup_singleton key, ?_⟩
    rintro other member last isKey rfl
    exact absent (List.mem_singleton.mp isKey ▸ member)

/-! ### Keys and answers -/

omit [DecidableEq α] in
theorem lookup_eq_none_iff (key : α) (entries : List (α × β)) :
    entries.lookup key = none ↔ key ∉ entries.map Prod.fst := by
  rw [List.lookup_eq_none_iff]
  constructor
  · intro absent listed
    obtain ⟨entry, member, rfl⟩ := List.mem_map.mp listed
    simpa using absent entry member
  · intro absent entry member
    have differs : key ≠ entry.1 := fun same => absent (List.mem_map.mpr ⟨entry, member, same.symm⟩)
    simpa using differs

end KeyBindings.Entries
