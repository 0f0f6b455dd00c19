import KeyBindings.Proofs.Entries
import KeyBindings.Setting.Merge

/-!
# Settings without a name given twice

The tables of a setting are lists of names with settings. Where no table gives a name twice, what
stands under a name is told by one entry, and a path of names leads to at most one setting.
-/
namespace KeyBindings

theorem Settings.put_eq (name : String) (value : Setting) (settings : Settings) :
    Settings.put name value settings = Entries.put name value settings := by
  induction settings with
  | nil => rfl
  | cons first rest ih =>
    obtain ⟨held, old⟩ := first
    rw [Settings.put, Entries.put, ih]

namespace Setting

variable {value : Setting} {entries : Settings} {name : String} {path : List String}

def IsTable (setting : Setting) : Prop := ∃ entries, setting = .table entries

theorem isTable_table (entries : Settings) : (table entries).IsTable := ⟨entries, rfl⟩

/-- No table in a setting gives a name twice. What is inside a list does not count, for a list is
never merged. -/
inductive Distinct : Setting → Prop
  | plain {setting : Setting} (noTable : ¬ setting.IsTable) : Distinct setting
  | named {entries : Settings} (names : (entries.map Prod.fst).Nodup)
      (inner : ∀ name value, (name, value) ∈ entries → Distinct value) : Distinct (.table entries)

theorem Distinct.names (distinct : (table entries).Distinct) : (entries.map Prod.fst).Nodup := by
  cases distinct with
  | plain noTable => exact absurd (isTable_table entries) noTable
  | named names _ => exact names

theorem Distinct.nil : (table []).Distinct := .named List.nodup_nil (by simp)

theorem Distinct.cons (absent : name ∉ entries.map Prod.fst) (here : value.Distinct)
    (rest : (table entries).Distinct) : (table ((name, value) :: entries)).Distinct := by
  refine .named (List.nodup_cons.mpr ⟨absent, rest.names⟩) fun other held member => ?_
  rcases List.mem_cons.mp member with same | later
  · obtain ⟨rfl, rfl⟩ := Prod.mk.inj same
    exact here
  · cases rest with
    | plain noTable => exact absurd (isTable_table entries) noTable
    | named _ inner => exact inner other held later

theorem Distinct.lookup (distinct : (table entries).Distinct)
    (found : entries.lookup name = some value) : value.Distinct := by
  cases distinct with
  | plain noTable => exact absurd (isTable_table entries) noTable
  | named _ inner => exact inner name value (Entries.mem_of_lookup found)

theorem Distinct.put (distinct : (table entries).Distinct) (here : value.Distinct) (name : String) :
    (table (Settings.put name value entries)).Distinct := by
  have names := Entries.nodup_keys_put name value distinct.names
  rw [Settings.put_eq]
  refine .named names fun other held member => ?_
  have found := (Entries.lookup_eq_some_iff other held _ names).mpr member
  rw [Entries.lookup_put] at found
  split at found
  · obtain rfl := Option.some.inj found
    exact here
  · exact distinct.lookup found

/-! ### Paths -/

@[simp] theorem at?_nil (setting : Setting) : setting.at? [] = some setting := by
  cases setting <;> rfl

theorem at?_plain (noTable : ¬ value.IsTable) (name : String) (path : List String) :
    value.at? (name :: path) = none := by
  cases value with
  | table entries => exact absurd (isTable_table entries) noTable
  | _ => rfl

theorem at?_table (entries : Settings) (name : String) (path : List String) :
    (table entries).at? (name :: path) = (entries.lookup name).bind (·.at? path) := by
  rw [Setting.at?]
  induction entries with
  | nil => rfl
  | cons entry rest ih =>
    obtain ⟨other, held⟩ := entry
    rw [Settings.at?, Entries.lookup_cons]
    by_cases here : other = name
    · simp [here]
    · rw [if_neg here, if_neg (Ne.symm here), ih]

/-- Only a table has anything below it. -/
theorem isTable_above {above : List String} {held : Setting} (found : value.at? path = some held)
    (isAbove : above <+: path) (proper : above ≠ path) :
    ∃ entries, value.at? above = some (.table entries) := by
  induction path generalizing value above with
  | nil => exact absurd (List.prefix_nil.mp isAbove) proper
  | cons name path ih =>
    -- Nothing is found below a plain value, so every value on the way is a table.
    by_cases plain : value.IsTable
    · obtain ⟨entries, rfl⟩ := plain
      cases above with
      | nil => exact ⟨entries, at?_nil _⟩
      | cons first above =>
        obtain ⟨rfl, below⟩ := List.cons_prefix_cons.mp isAbove
        rw [at?_table] at found ⊢
        obtain ⟨inner, here, deeper⟩ := Option.bind_eq_some_iff.mp found
        rw [here]
        exact ih deeper below (by simpa using proper)
    · rw [at?_plain plain] at found
      cases found

/-- What stands at the end of a path in a setting without names given twice is one itself. -/
theorem Distinct.at? (distinct : value.Distinct) {held : Setting}
    (found : value.at? path = some held) : held.Distinct := by
  induction path generalizing value with
  | nil =>
    obtain rfl : value = held := by simpa using found
    exact distinct
  | cons name path ih =>
    by_cases plain : value.IsTable
    · obtain ⟨entries, rfl⟩ := plain
      rw [at?_table] at found
      obtain ⟨inner, here, deeper⟩ := Option.bind_eq_some_iff.mp found
      exact ih (distinct.lookup here) deeper
    · rw [at?_plain plain] at found
      cases found

end Setting

end KeyBindings
