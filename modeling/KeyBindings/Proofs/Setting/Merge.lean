import KeyBindings.Host
import KeyBindings.Proofs.Setting.Distinct

/-!
# Settings laid over others

Where a table is laid over a table, the names of the lower one come first, and each name has what
comes of laying its upper setting over its lower one. Along a path this means that a setting of the
upper table stays, and one of the lower table stays where nothing of the upper one is in its way.

Functions cannot call themselves without end, so tables that are too deep cannot be laid over each
other. What comes of it is told first as if all could, and then shown for those that can.
-/
namespace KeyBindings

mutual

/-- What comes of laying `upper` over what had its name, with as many calls as it takes. -/
def Setting.over (lower : Option Setting) : Setting → Setting
  | .table upper =>
    match lower with
    | some (.table lower) => .table (Settings.merge lower upper)
    | _ => .table upper
  | upper => upper

/-- What comes of laying some settings over others, with as many calls as it takes. -/
def Settings.merge (lower : List (String × Setting)) : List (String × Setting) → List (String × Setting)
  | [] => lower
  | (name, value) :: rest =>
    Settings.merge (Settings.put name (Setting.over (lower.lookup name) value) lower) rest

end

namespace Setting

variable {value : Setting}

/-! ### One setting over another -/

@[simp] theorem over_none (value : Setting) : Setting.over none value = value := by
  cases value <;> rfl

theorem over_plain (noTable : ¬ value.IsTable) (lower : Option Setting) :
    Setting.over lower value = value := by
  cases value with
  | table entries => exact absurd (isTable_table entries) noTable
  | _ => rfl

theorem over_table (lower upper : Settings) :
    Setting.over (some (.table lower)) (.table upper) = .table (Settings.merge lower upper) := rfl

theorem table_over (upper : Settings) {lower : Setting} (noTable : ¬ lower.IsTable) :
    Setting.over (some lower) (.table upper) = .table upper := by
  cases lower with
  | table entries => exact absurd (isTable_table entries) noTable
  | _ => rfl

/-- A table that is laid over something is a table afterwards, and nothing else is. -/
theorem isTable_over_iff (lower : Option Setting) (value : Setting) :
    (Setting.over lower value).IsTable ↔ value.IsTable := by
  by_cases plain : value.IsTable
  · obtain ⟨upper, rfl⟩ := plain
    refine iff_of_true ?_ (isTable_table upper)
    rcases lower with _ | lower
    · exact isTable_table upper
    · by_cases plain : lower.IsTable
      · obtain ⟨entries, rfl⟩ := plain
        exact isTable_table _
      · rw [table_over upper plain]
        exact isTable_table upper
  · rw [over_plain plain]

/-- What comes of two settings that may be there or not, one laid over the other. -/
def overlay (lower upper : Option Setting) : Option Setting :=
  (upper.map (Setting.over lower)).or lower

@[simp] theorem overlay_none (lower : Option Setting) : overlay lower none = lower := rfl

@[simp] theorem overlay_some (lower : Option Setting) (upper : Setting) :
    overlay lower (some upper) = some (Setting.over lower upper) := rfl

end Setting

/-! ### One table over another -/

namespace Settings

variable {lower upper : Settings}

/-- What a name has after settings with distinct names were laid over others. -/
theorem lookup_merge (lower : Settings) (distinct : (upper.map Prod.fst).Nodup) (name : String) :
    (merge lower upper).lookup name = Setting.overlay (lower.lookup name) (upper.lookup name) := by
  induction upper generalizing lower with
  | nil => simp [merge]
  | cons entry rest ih =>
    obtain ⟨first, value⟩ := entry
    obtain ⟨absent, tail⟩ := List.nodup_cons.mp distinct
    rw [merge, put_eq, ih _ tail, Entries.lookup_put, Entries.lookup_cons]
    -- A name comes up once, so what it has then is what it has in the end.
    by_cases here : name = first
    · subst here
      simp [(Entries.lookup_eq_none_iff name rest).mpr absent]
    · simp only [if_neg here]

end Settings

namespace Setting

variable {value : Setting}

/-! ### Laying the same over again -/

variable {upper : Option Setting} {path : List String}

/-- All that a setting has above the end of a path are tables. -/
def IsClear (upper : Option Setting) (path : List String) : Prop :=
  ∀ above, above <+: path → above ≠ path →
    ∀ held, upper.bind (·.at? above) = some held → held.IsTable

theorem isClear_cons_iff (entries : Settings) (name : String) (path : List String) :
    IsClear (some (.table entries)) (name :: path) ↔ IsClear (entries.lookup name) path := by
  constructor
  · intro clear above isAbove proper held found
    refine clear (name :: above) (List.cons_prefix_cons.mpr ⟨rfl, isAbove⟩) (by simpa using proper)
      held ?_
    simpa only [Option.bind_some, at?_table] using found
  · intro clear above isAbove proper held found
    -- The table itself is clear at once; what lies above the rest is moved below the name.
    cases above with
    | nil =>
      obtain rfl : Setting.table entries = held := by simpa using found
      exact isTable_table entries
    | cons first above =>
      obtain ⟨rfl, below⟩ := List.cons_prefix_cons.mp isAbove
      rw [Option.bind_some, at?_table] at found
      exact clear above below (by simpa using proper) held found

/-- Below a table that is laid over something, the settings of one name are laid over each other. -/
theorem overlay_cons (lower : Option Setting) {entries : Settings}
    (distinct : (entries.map Prod.fst).Nodup) (name : String) (path : List String) :
    (overlay lower (some (.table entries))).bind (·.at? (name :: path)) =
      (overlay (lower.bind (·.at? [name])) (entries.lookup name)).bind (·.at? path) := by
  have alone : overlay none (entries.lookup name) = entries.lookup name := by
    cases entries.lookup name <;> simp
  rw [overlay_some, Option.bind_some]
  rcases lower with _ | old
  · rw [over_none, at?_table, Option.bind_none, alone]
  · by_cases plain : old.IsTable
    · obtain ⟨below, rfl⟩ := plain
      have part : (table below).at? [name] = below.lookup name := by simp [at?_table]
      rw [over_table, at?_table, Settings.lookup_merge below distinct, Option.bind_some, part]
    · rw [table_over entries plain, at?_table, Option.bind_some, at?_plain plain, alone]

theorem at?_cons (value : Setting) (name : String) (path : List String) :
    value.at? (name :: path) = (value.at? [name]).bind (·.at? path) := by
  by_cases plain : value.IsTable
  · obtain ⟨entries, rfl⟩ := plain
    simp [at?_table]
  · rw [at?_plain plain, at?_plain plain, Option.bind_none]

/-- Where the upper setting leaves the way open, what stands at the end of a path is what comes of
the two settings there. -/
theorem at?_overlay (lower : Option Setting) (distinct : ∀ value, upper = some value → value.Distinct)
    (clear : IsClear upper path) :
    (overlay lower upper).bind (·.at? path) =
      overlay (lower.bind (·.at? path)) (upper.bind (·.at? path)) := by
  induction path generalizing lower upper with
  | nil => cases upper <;> cases lower <;> simp
  | cons name path ih =>
    rcases upper with _ | value
    · simp
    -- The path leads on, so a clear upper value must be a table here.
    · have isTable : value.IsTable := clear [] (List.nil_prefix) (by simp) value (by simp)
      obtain ⟨entries, rfl⟩ := isTable
      have whole := distinct _ rfl
      rw [overlay_cons lower whole.names, ih _ (fun _ held => whole.lookup held)
        ((isClear_cons_iff entries name path).mp clear), Option.bind_some, at?_table]
      congr 1
      cases lower with
      | none => rfl
      | some old => exact (at?_cons old name path).symm

/-- Where the upper setting is in the way, neither it nor what comes of it has anything there. -/
theorem at?_overlay_blocked (lower : Option Setting) (distinct : ∀ value, upper = some value → value.Distinct)
    (blocked : ¬ IsClear upper path) :
    (overlay lower upper).bind (·.at? path) = none ∧ upper.bind (·.at? path) = none := by
  induction path generalizing lower upper with
  | nil =>
    refine absurd (fun above isAbove proper => ?_) blocked
    exact absurd (List.prefix_nil.mp isAbove) proper
  | cons name path ih =>
    rcases upper with _ | value
    · refine absurd (fun above _ _ held found => ?_) blocked
      cases found
    -- A plain value here replaces whatever the lower side holds; a table passes the block on.
    · by_cases plain : value.IsTable
      · obtain ⟨entries, rfl⟩ := plain
        have whole := distinct _ rfl
        rw [overlay_cons lower whole.names, Option.bind_some, at?_table]
        exact ih _ (fun _ held => whole.lookup held)
          fun clear => blocked ((isClear_cons_iff entries name path).mpr clear)
      · simp [over_plain plain, at?_plain plain]

end Setting

namespace Settings

/-- Settings have all that others have: a table at the end of every path where those have one, and
something where those have anything. -/
structure Keeps (lower settings : Settings) : Prop where
  tables : ∀ path held, (Setting.table lower).at? path = some held → held.IsTable →
    ∃ kept, (Setting.table settings).at? path = some kept ∧ kept.IsTable
  values : ∀ path held, (Setting.table lower).at? path = some held →
    ∃ kept, (Setting.table settings).at? path = some kept

/-- Settings that are laid over others leave all that those have exactly when they put nothing but
tables where those have tables. -/
theorem keeps_merge_iff (lower : Settings) (distinct : (Setting.table upper).Distinct) :
    Keeps lower (merge lower upper) ↔
      ∀ path below above, (Setting.table lower).at? path = some below → below.IsTable →
        (Setting.table upper).at? path = some above → above.IsTable := by
  have merged := Setting.over_table lower upper
  have whole : ∀ value, some (Setting.table upper) = some value → value.Distinct := by
    rintro value ⟨⟩
    exact distinct
  constructor
  · intro keeps path below above under isTable atUpper
    obtain ⟨kept, held, keptTable⟩ := keeps.tables path below under isTable
    by_cases clear : Setting.IsClear (some (.table upper)) path
    · have there := Setting.at?_overlay (some (.table lower)) whole clear
      simp only [Setting.overlay_some, merged, Option.bind_some, held, atUpper] at there
      obtain rfl := Option.some.inj there
      exact (Setting.isTable_over_iff _ above).mp keptTable
    · have blocked := (Setting.at?_overlay_blocked (some (.table lower)) whole clear).2
      rw [Option.bind_some, atUpper] at blocked
      cases blocked
  · intro tables
    -- Where the lower settings go on there are tables, so the upper ones have tables there too.
    have clear : ∀ path below, (Setting.table lower).at? path = some below →
        Setting.IsClear (some (.table upper)) path := by
      intro path below under part isAbove proper held found
      obtain ⟨entries, table⟩ := Setting.isTable_above under isAbove proper
      exact tables part _ held table (Setting.isTable_table entries) found
    have reached : ∀ path below, (Setting.table lower).at? path = some below →
        (Setting.table (merge lower upper)).at? path =
          Setting.overlay (some below) ((Setting.table upper).at? path) := by
      intro path below under
      have there := Setting.at?_overlay (some (.table lower)) whole (clear path below under)
      simpa only [Setting.overlay_some, merged, Option.bind_some, under] using there
    constructor
    · intro path below under isTable
      rw [reached path below under]
      cases atUpper : (Setting.table upper).at? path with
      | none => exact ⟨below, rfl, isTable⟩
      | some above =>
        have isTable := tables path below above under isTable atUpper
        exact ⟨_, rfl, (Setting.isTable_over_iff _ above).mpr isTable⟩
    · intro path below under
      rw [reached path below under]
      cases (Setting.table upper).at? path with
      | none => exact ⟨below, rfl⟩
      | some above => exact ⟨_, rfl⟩

end Settings

/-! ### Within some calls -/

namespace Setting

variable {calls : Nat} {lower : Option Setting} {value after : Setting} {path : List String}

/-- A path that leads to tables on both sides has fewer names than there are calls. -/
def MeetBelow (calls : Nat) (lower : Option Setting) (upper : Setting) : Prop :=
  ∀ path below above, lower.bind (·.at? path) = some (.table below) →
    upper.at? path = some (.table above) → path.length < calls

theorem isTable_of_at? {entries : Settings} (found : value.at? path = some (.table entries)) :
    value.IsTable := by
  cases path with
  | nil => exact ⟨entries, by simpa using found⟩
  | cons name path =>
    by_contra plain
    rw [at?_plain plain] at found
    cases found

theorem meetBelow_of_plain_upper (noTable : ¬ value.IsTable) : MeetBelow calls lower value :=
  fun _ _ _ _ atUpper => absurd (isTable_of_at? atUpper) noTable

theorem meetBelow_of_plain_lower (noTable : ∀ old, lower = some old → ¬ old.IsTable) :
    MeetBelow calls lower value := by
  intro path below above under atUpper
  obtain ⟨old, held, deeper⟩ := Option.bind_eq_some_iff.mp under
  exact absurd (isTable_of_at? deeper) (noTable old held)

theorem not_meetBelow_zero (lower upper : Settings) :
    ¬ MeetBelow 0 (some (.table lower)) (.table upper) := fun meet =>
  Nat.not_lt_zero _ (meet [] lower upper (at?_nil _) (at?_nil _))

/-- Below two tables are the settings of each name, by one call less. -/
theorem meetBelow_table_iff (calls : Nat) (lower : Settings) {upper : Settings}
    (names : (upper.map Prod.fst).Nodup) :
    MeetBelow (calls + 1) (some (.table lower)) (.table upper) ↔
      ∀ name value, (name, value) ∈ upper → MeetBelow calls (lower.lookup name) value := by
  constructor
  · intro meet name value member path below above under atUpper
    have found := (Entries.lookup_eq_some_iff name value upper names).mpr member
    -- A meeting below one entry is one step longer when counted from the tables.
    have shorter := meet (name :: path) below above
      (by rw [Option.bind_some, at?_table, under]) (by rw [at?_table, found, Option.bind_some, atUpper])
    simpa using shorter
  · intro each path below above under atUpper
    cases path with
    | nil => exact Nat.succ_pos calls
    | cons name path =>
      rw [Option.bind_some, at?_table] at under
      rw [at?_table] at atUpper
      obtain ⟨value, found, deeper⟩ := Option.bind_eq_some_iff.mp atUpper
      have shorter := each name value (Entries.mem_of_lookup found) path below above under deeper
      simpa using shorter

theorem overWithin_plain (calls : Nat) (noTable : ¬ value.IsTable) (lower : Option Setting) :
    overWithin calls lower value = some value := by
  cases value with
  | table entries => exact absurd (isTable_table entries) noTable
  | _ => rfl

theorem table_overWithin (calls : Nat) (upper : Settings)
    (noTable : ∀ old, lower = some old → ¬ old.IsTable) :
    overWithin calls lower (.table upper) = some (.table upper) := by
  rcases lower with _ | old
  · cases calls <;> rfl
  · cases old with
    | table entries => exact absurd (isTable_table entries) (noTable _ rfl)
    | _ => cases calls <;> rfl

theorem overWithin_succ (calls : Nat) (lower upper : Settings) :
    overWithin (calls + 1) (some (.table lower)) (.table upper) =
      (Settings.mergeWithin calls lower upper).map .table := rfl

/-- Name by name, where each setting can be laid over what had its name. -/
theorem mergeWithin_of_each {upper : Settings} (names : (upper.map Prod.fst).Nodup)
    (each : ∀ name value, (name, value) ∈ upper → ∀ lower after,
      overWithin calls lower value = some after ↔
        MeetBelow calls lower value ∧ Setting.over lower value = after)
    (lower after : Settings) :
    Settings.mergeWithin calls lower upper = some after ↔
      (∀ name value, (name, value) ∈ upper → MeetBelow calls (lower.lookup name) value) ∧
        Settings.merge lower upper = after := by
  induction upper generalizing lower with
  | nil => simp [Settings.mergeWithin, Settings.merge]
  | cons entry rest ih =>
    obtain ⟨first, value⟩ := entry
    obtain ⟨absent, tail⟩ := List.nodup_cons.mp names
    have later := ih tail fun name value member => each name value (List.mem_cons_of_mem _ member)
    have here := each first value List.mem_cons_self
    -- The name that comes first is not among the rest, so what they are laid over is as it was.
    have kept : ∀ merged name value, (name, value) ∈ rest →
        (Settings.put first merged lower).lookup name = lower.lookup name := by
      intro merged name value member
      rw [Settings.put_eq, Entries.lookup_put, if_neg]
      rintro rfl
      exact absent (List.mem_map.mpr ⟨_, member, rfl⟩)
    rw [Settings.mergeWithin, Settings.merge, Option.bind_eq_bind, Option.bind_eq_some_iff]
    simp only [here, later]
    constructor
    · rintro ⟨merged, ⟨meet, rfl⟩, below, rfl⟩
      refine ⟨fun name held member => ?_, rfl⟩
      rcases List.mem_cons.mp member with same | member
      · obtain ⟨rfl, rfl⟩ := Prod.mk.inj same
        exact meet
      · exact kept _ name held member ▸ below name held member
    · rintro ⟨meet, rfl⟩
      refine ⟨_, ⟨meet first value List.mem_cons_self, rfl⟩, fun name held member => ?_, rfl⟩
      rw [kept _ name held member]
      exact meet name held (List.mem_cons_of_mem _ member)

/-- A setting can be laid over another exactly when they do not meet too deep, and what comes of it
does not depend on how many calls are left. -/
theorem overWithin_eq_some_iff (distinct : value.Distinct) (calls : Nat) (lower : Option Setting)
    (after : Setting) :
    overWithin calls lower value = some after ↔
      MeetBelow calls lower value ∧ Setting.over lower value = after := by
  induction distinct generalizing calls lower after with
  | plain noTable =>
    rw [overWithin_plain calls noTable, over_plain noTable, Option.some.injEq]
    exact (and_iff_right (meetBelow_of_plain_upper noTable)).symm
  | @named upper names inner ih =>
    -- A call is spent only where both sides hold a table.
    by_cases both : ∃ entries, lower = some (.table entries)
    · obtain ⟨entries, rfl⟩ := both
      cases calls with
      | zero => exact iff_of_false nofun fun meet => not_meetBelow_zero entries upper meet.1
      | succ calls =>
        have each := mergeWithin_of_each names fun name value member => ih name value member calls
        rw [overWithin_succ, over_table, meetBelow_table_iff calls entries names,
          Option.map_eq_some_iff]
        simp only [each]
        constructor
        · rintro ⟨merged, ⟨meet, rfl⟩, rfl⟩
          exact ⟨meet, rfl⟩
        · rintro ⟨meet, rfl⟩
          exact ⟨_, ⟨meet, rfl⟩, rfl⟩
    · have noTable : ∀ old, lower = some old → ¬ old.IsTable := by
        rintro old rfl ⟨entries, rfl⟩
        exact both ⟨entries, rfl⟩
      -- No table below: the value stands alone, with or without a limit.
      have alone : Setting.over lower (.table upper) = .table upper := by
        rcases lower with _ | old
        · exact over_none _
        · exact table_over upper (noTable old rfl)
      rw [table_overWithin calls upper noTable, alone, Option.some.injEq]
      exact (and_iff_right (meetBelow_of_plain_lower noTable)).symm

end Setting

namespace Settings

variable {calls : Nat} {lower upper : Settings}

/-- A path that leads to tables in both settings has no more names than there are calls. -/
def MeetWithin (calls : Nat) (lower upper : Settings) : Prop :=
  ∀ path below above, (Setting.table lower).at? path = some (.table below) →
    (Setting.table upper).at? path = some (.table above) → path.length ≤ calls

theorem mergeWithin_eq_some_iff (calls : Nat) (lower : Settings)
    (distinct : (Setting.table upper).Distinct) (after : Settings) :
    mergeWithin calls lower upper = some after ↔
      MeetWithin calls lower upper ∧ merge lower upper = after := by
  have whole := Setting.overWithin_eq_some_iff distinct (calls + 1) (some (.table lower)) (.table after)
  rw [Setting.overWithin_succ, Setting.over_table] at whole
  simpa [Setting.MeetBelow, MeetWithin, Nat.lt_succ_iff] using whole

end Settings

end KeyBindings
