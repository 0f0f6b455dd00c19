import KeyBindings.CommandLine.Program
import KeyBindings.Proofs.Setting.Merge
import KeyBindings.Proofs.Setting.Reading

/-!
# The sections of the settings

The program's own settings have two sections, which it reads as tables without a further look. They
are tables in the settings it starts with exactly when the user's settings put nothing else in their
place.
-/
namespace KeyBindings

open CommandLine

theorem Tree.isFile_of_read {tree : Tree} {here : Place} {path : Path} {content : Text.Utf8.Octets}
    (read : tree.read here path = .ok content) : tree.isFile here path = .ok true := by
  unfold Tree.read at read
  unfold isFile
  cases found : tree.entryAt here path with
  | error kind => simp [bind, Except.bind, found] at read
  | ok entry => cases entry <;> simp [bind, Except.bind, found] at read ⊢

/-- Nothing but a table stands under a name. -/
def Settings.LeavesTable (settings : Settings) (name : String) : Prop :=
  ∀ value, settings.lookup name = some value → value.IsTable

theorem Settings.inSection_ok_iff (settings : Settings) (name : String) :
    (∃ entries, settings.inSection name = .ok entries) ↔ settings.LeavesTable name := by
  unfold inSection get LeavesTable
  cases settings.lookup name with
  | none => simp [Setting.asTable]
  | some value => cases value <;> simp [Setting.asTable, Setting.IsTable]

namespace Config

variable {host : Host} {user settings : Settings}

/-- What the settings file of the user says, once the folder for it has been made. -/
def userSettings? (host : Host) : Option Settings :=
  match folder (ensure host).1 with
  | .error _ => none
  | .ok folder =>
    ((ensure host).1.tree.read (ensure host).1.here (folder.child "config.toml")).toOption.bind
      (readSettings? (ensure host).1.calls.values)

theorem distinct_given (given : userSettings? host = some user) : (Setting.table user).Distinct := by
  unfold userSettings? at given
  split at given
  · cases given
  · obtain ⟨content, -, parsed⟩ := Option.bind_eq_some_iff.mp given
    unfold readSettings? at parsed
    split at parsed
    · exact Toml.distinct_of_read? parsed
    · cases parsed

/-! ### The program's own sections -/

theorem lookup_defaults {name : String} {value : Setting} (found : defaults.lookup name = some value) :
    name ∈ defaults.map Prod.fst ∧ ∃ entries : Settings, value = .table entries ∧
      ∀ entry ∈ entries, ¬ entry.2.IsTable := by
  have member := Entries.mem_of_lookup found
  refine ⟨List.mem_map.mpr ⟨_, member, rfl⟩, ?_⟩
  simp only [defaults, List.mem_cons, Prod.mk.injEq, List.not_mem_nil, or_false] at member
  rcases member with ⟨-, rfl⟩ | ⟨-, rfl⟩
  all_goals exact ⟨_, rfl, by simp [Setting.IsTable]⟩

/-- The tables among the program's own settings are the whole and its sections. -/
theorem table_defaults {path : List String} {held : Setting}
    (found : (Setting.table defaults).at? path = some held) (isTable : held.IsTable) :
    path = [] ∨ ∃ name ∈ defaults.map Prod.fst, path = [name] := by
  cases path with
  | nil => exact .inl rfl
  | cons name path =>
    rw [Setting.at?_table] at found
    obtain ⟨part, here, deeper⟩ := Option.bind_eq_some_iff.mp found
    obtain ⟨known, entries, rfl, plain⟩ := lookup_defaults here
    cases path with
    | nil => exact .inr ⟨name, known, rfl⟩
    | cons below path =>
      -- A section holds no tables, so neither it nor what it holds leads to one.
      rw [Setting.at?_table] at deeper
      obtain ⟨leaf, there, last⟩ := Option.bind_eq_some_iff.mp deeper
      have noTable := plain _ (Entries.mem_of_lookup there)
      cases path with
      | nil =>
        obtain rfl : leaf = held := by simpa using last
        exact absurd isTable noTable
      | cons more path =>
        rw [Setting.at?_plain noTable] at last
        cases last

/-- Sections are all the tables that there are, so one call is enough to lay the user's over them. -/
theorem mergeWithin_defaults {calls : Nat} (oneCall : 0 < calls) (distinct : (Setting.table user).Distinct) :
    Settings.mergeWithin calls defaults user = some (Settings.merge defaults user) := by
  refine (Settings.mergeWithin_eq_some_iff calls defaults distinct _).mpr
    ⟨fun path below above under _ => ?_, rfl⟩
  rcases table_defaults under (Setting.isTable_table below) with rfl | ⟨name, -, rfl⟩
  · exact Nat.zero_le calls
  · exact oneCall

theorem load_given (given : userSettings? host = some user) :
    (load host).result = .ok (Settings.merge defaults user) := by
  -- The defaults hold no table inside a section, so a single call is enough to merge them.
  have merged : ∀ calls, 0 < calls →
      Settings.mergeWithin calls defaults user = some (Settings.merge defaults user) :=
    fun _ oneCall => mergeWithin_defaults oneCall (distinct_given given)
  unfold userSettings? at given
  unfold load
  cases made : ensure host with
  | mk after records =>
    rw [made] at given
    dsimp only at given ⊢
    cases placed : folder after with
    | error fault => simp [placed] at given
    | ok place =>
      rw [placed] at given
      dsimp only at given ⊢
      cases read : after.tree.read after.here (place.child "config.toml") with
      | error kind => simp [read, Except.toOption] at given
      | ok content =>
        have parsed : readSettings? after.calls.values content = some user := by
          simpa [read, Except.toOption] using given
        simp [Tree.isFile_of_read read, Except.toOption, parsed, merged _ after.calls.one_table]

theorem isTable_defaults {name : String} (known : name ∈ defaults.map Prod.fst) :
    ∃ entries, defaults.lookup name = some (.table entries) := by
  simp only [defaults, List.map_cons, List.map_nil, List.mem_cons, List.not_mem_nil, or_false] at known
  rcases known with rfl | rfl <;> exact ⟨_, rfl⟩

/-- The program's own settings are left whole when the user's leave their sections. -/
theorem keeps_defaults_iff (distinct : (Setting.table user).Distinct) :
    Settings.Keeps defaults (Settings.merge defaults user) ↔
      ∀ name ∈ defaults.map Prod.fst, user.LeavesTable name := by
  have single : ∀ (entries : Settings) (name : String),
      (Setting.table entries).at? [name] = entries.lookup name := by
    intro entries name
    simp [Setting.at?_table]
  rw [Settings.keeps_merge_iff defaults distinct]
  constructor
  · intro tables name known value found
    obtain ⟨entries, own⟩ := isTable_defaults known
    exact tables [name] _ value ((single _ _).trans own) (Setting.isTable_table entries)
      ((single _ _).trans found)
  · intro leaves path below above under isTable atUpper
    -- A table of the defaults is the whole or one of its sections.
    rcases table_defaults under isTable with rfl | ⟨name, known, rfl⟩
    · obtain rfl : Setting.table user = above := by simpa using atUpper
      exact Setting.isTable_table user
    · exact leaves name known above ((single _ _).symm.trans atUpper)

theorem leavesTable_merge_iff (distinct : (Setting.table user).Distinct) {name : String}
    (known : name ∈ defaults.map Prod.fst) :
    Settings.LeavesTable (Settings.merge defaults user) name ↔ user.LeavesTable name := by
  obtain ⟨entries, own⟩ := isTable_defaults known
  unfold Settings.LeavesTable
  rw [Settings.lookup_merge defaults distinct.names, own]
  cases user.lookup name with
  | none => simp [Setting.IsTable]
  | some value => simp [Setting.isTable_over_iff]

/-! ### What reads the sections -/

theorem inSection_error (settings : Settings) {name : String} (plain : ¬ settings.LeavesTable name) :
    ∃ fault, settings.inSection name = .error fault := by
  cases found : settings.inSection name with
  | error fault => exact ⟨fault, rfl⟩
  | ok entries => exact absurd ((settings.inSection_ok_iff name).mp ⟨entries, found⟩) plain

/-- Without a table for the journal the program does not start, whatever its arguments ask for. -/
theorem start_plain_journal {first : Host} (loaded : (load (loadVariables first).host).result = .ok settings)
    (plain : ¬ settings.LeavesTable "logging") (limits : Limits) (terminal : Terminal)
    (display : Display) (arguments : List String) :
    (start first limits terminal display arguments).exit = .status 1 := by
  obtain ⟨fault, missing⟩ := inSection_error settings plain
  have unset : ∀ host, (Journal.setup host settings).result = .error (.setting fault) := by
    intro host
    rw [Journal.setup, missing]
  obtain ⟨work, reason, prepared⟩ : ∃ work reason, prepare first = (work, .error reason) := by
    simp only [prepare, loaded, unset]
    exact ⟨_, _, rfl⟩
  rw [start, prepared]

/-- Without a table for the keys the program does not get as far as its screen. -/
theorem interact_plain_keys (plain : ¬ settings.LeavesTable "keys") (work : Work)
    (keyboard : Except KeyboardFault Keyboard) (display : Display)
    (job : Work → Binder → Prepared → List Event → CommandLine.Outcome) :
    (interact work settings keyboard display job).exit = .status 1 := by
  obtain ⟨fault, missing⟩ := inSection_error settings plain
  have delay : delayOf settings = .error fault := by
    rw [delayOf, missing]
    rfl
  rw [interact, delay]
  rfl

/-- The user's settings, once they are read, are laid over the program's own. What comes of them has a
table wherever the program's own settings have one, and something wherever those have anything,
exactly when the user's settings leave each section out or give a table for it; and just then a
section can be read. Without a section for the journal the program does not start, and without one for
the keys it ends before there is a screen. -/
theorem load_keeps_iff (host : Host) (user : Settings) (given : userSettings? host = some user) :
    let settings : Settings := Settings.merge defaults user
    (load host).result = .ok settings ∧
    (Settings.Keeps defaults settings ↔ ∀ name ∈ defaults.map Prod.fst, user.LeavesTable name) ∧
    (∀ name ∈ defaults.map Prod.fst,
      (∃ entries, settings.inSection name = .ok entries) ↔ user.LeavesTable name) ∧
    (¬ user.LeavesTable "logging" → ∀ first limits terminal display arguments,
      (loadVariables first).host = host →
      (start first limits terminal display arguments).exit = .status 1) ∧
    (¬ user.LeavesTable "keys" → ∀ work keyboard display job,
      (interact work settings keyboard display job).exit = .status 1) := by
  intro settings
  have loaded := load_given given
  have distinct := distinct_given given
  -- The merge has a table at a section exactly where the user leaves one.
  have leaves : ∀ name ∈ defaults.map Prod.fst, settings.LeavesTable name ↔ user.LeavesTable name :=
    fun name known => leavesTable_merge_iff distinct known
  refine ⟨loaded, keeps_defaults_iff distinct, fun name known => ?_, fun plain first => ?_,
    fun plain => ?_⟩
  · rw [Settings.inSection_ok_iff, leaves name known]
  · rintro limits terminal display arguments rfl
    exact start_plain_journal loaded (fun table => plain ((leaves _ (by decide)).mp table)) limits
      terminal display arguments
  · exact interact_plain_keys fun table => plain ((leaves _ (by decide)).mp table)

/-- A host whose user has a settings file of one line. -/
def settingsHost (line : String) : Host where
  tree := { root := [("config", .folder [("config.toml", .file (Text.Utf8.encode line))])] }
  here := []
  environment := [(folderVariable, "/config")]

theorem noTable_of_kind (value : Setting) (kind : value.kind ≠ "dict") : ¬ value.IsTable := by
  rintro ⟨entries, rfl⟩
  exact kind rfl

/-- A number in place of the section of the keys. -/
theorem load_keeps_iff_number :
    ∃ user, userSettings? (settingsHost "keys = 5\n") = some user ∧ user.LeavesTable "logging" ∧
      ¬ user.LeavesTable "keys" ∧ ¬ Settings.Keeps defaults (Settings.merge defaults user) ∧
      ∀ work keyboard display job,
        (interact work (Settings.merge defaults user) keyboard display job).exit = .status 1 := by
  have numbered : ((userSettings? (settingsHost "keys = 5\n")).bind
      fun user => user.lookup "keys").map Setting.kind = some "int" := by decide +kernel
  have alone : ((userSettings? (settingsHost "keys = 5\n")).bind
      fun user => user.lookup "logging").isNone = true := by decide +kernel
  cases given : userSettings? (settingsHost "keys = 5\n") with
  | none => simp [given] at numbered
  | some user =>
    rw [given] at numbered alone
    obtain ⟨value, found, kind⟩ := Option.map_eq_some_iff.mp numbered
    have plain : ¬ user.LeavesTable "keys" := fun leaves =>
      noTable_of_kind value (by rw [kind]; decide) (leaves value found)
    have left : user.LeavesTable "logging" := by
      intro value found
      simp only [Option.bind_some] at alone
      simp [found] at alone
    obtain ⟨-, keeps, -, -, ends⟩ := load_keeps_iff _ user given
    exact ⟨user, rfl, left, plain, fun kept => plain (keeps.mp kept _ (by decide)), ends plain⟩

/-- The number is all that is left of the keys' settings. -/
theorem load_number_for_section :
    ∃ settings, (load (settingsHost "keys = 5\n")).result = .ok settings ∧
      (∃ entries, (Setting.table defaults).at? ["keys"] = some (.table entries)) ∧
      (∃ value, (Setting.table settings).at? ["keys"] = some value ∧ ¬ value.IsTable) ∧
      (∃ value, (Setting.table defaults).at? ["keys", "file"] = some value) ∧
      (Setting.table settings).at? ["keys", "file"] = none := by
  have numbered : ((load (settingsHost "keys = 5\n")).result.toOption.bind
      fun settings => (Setting.table settings).at? ["keys"]).map Setting.kind = some "int" := by
    decide +kernel
  cases loaded : (load (settingsHost "keys = 5\n")).result with
  | error fault => simp [loaded, Except.toOption] at numbered
  | ok settings =>
    rw [loaded] at numbered
    obtain ⟨value, found, kind⟩ := Option.map_eq_some_iff.mp numbered
    have plain := noTable_of_kind value (by rw [kind]; decide)
    have below : (Setting.table settings).at? ["keys", "file"] = none := by
      rw [Setting.at?_cons]
      simp only [Except.toOption, Option.bind_some] at found
      rw [found, Option.bind_some, Setting.at?_plain plain]
    exact ⟨settings, rfl, ⟨_, rfl⟩, ⟨value, found, plain⟩, ⟨_, rfl⟩, below⟩

end Config

end KeyBindings
