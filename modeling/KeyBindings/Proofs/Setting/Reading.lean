import KeyBindings.Proofs.Setting.Distinct
import KeyBindings.Setting.Toml.Document

/-!
# Settings read from a document

A document that is read gives no name twice: every assignment puts its value under a name, and a
name that has a value already is refused or gets another one in its place.
-/
namespace KeyBindings.Toml

/-! ### Values -/

theorem noTable_ofPoints (points : List Text.CodePoint) : ¬ (Setting.ofPoints points).IsTable := by
  unfold Setting.ofPoints
  rintro ⟨entries, same⟩
  split at same <;> cases same

theorem noTable_readNumber? {text : List Char} {value : Setting} (read : readNumber? text = some value) :
    ¬ value.IsTable := by
  rintro ⟨entries, rfl⟩
  unfold readNumber? readFractional? at read
  simp only at read
  repeat' split at read
  all_goals simp [Option.bind_eq_some_iff] at read

theorem noTable_readPlain? {wellFormed : Bool} {text : List Char} {value : Setting}
    (read : readPlain? wellFormed text = some value) : ¬ value.IsTable := by
  rintro ⟨entries, rfl⟩
  unfold readPlain? at read
  split at read
  · simp at read
  · split at read
    · cases read
    · split at read
      · cases read
      · split at read
        · exact noTable_readNumber? read ⟨entries, rfl⟩
        · cases read

/-! ### Changes of a table -/

/-- A change keeps tables without a name given twice. -/
def Keeps {α : Type} (change : Settings → Option (Settings × α)) : Prop :=
  ∀ table after result, (Setting.table table).Distinct → change table = some (after, result) →
    (Setting.table after).Distinct

theorem distinct_inTable? {α : Type} {change : Settings → Option (Settings × α)} (keeps : Keeps change)
    (names : List String) : Keeps (inTable? change names) := by
  induction names with
  | nil => exact keeps
  | cons name rest ih =>
    intro table after result distinct changed
    rw [inTable?] at changed
    split at changed
    -- The table at the name is new or one that stands; either way one name is put.
    next absent =>
      obtain ⟨⟨inner, _⟩, below, same⟩ := Option.bind_eq_some_iff.mp changed
      cases same
      exact distinct.put (ih [] inner result .nil below) name
    next old found =>
      obtain ⟨⟨inner, _⟩, below, same⟩ := Option.bind_eq_some_iff.mp changed
      cases same
      exact distinct.put (ih old inner result (distinct.lookup found) below) name
    · cases changed

/-- What every step keeps, a whole run of steps keeps. -/
theorem foldlM_keeps {σ α : Type} {step : σ → α → Option σ} (holds : σ → Prop)
    (kept : ∀ state item after, holds state → step state item = some after → holds after)
    (items : List α) (state after : σ) (start : holds state)
    (run : items.foldlM step state = some after) : holds after := by
  induction items generalizing state with
  | nil =>
    cases run
    exact start
  | cons item rest ih =>
    obtain ⟨middle, first, later⟩ := Option.bind_eq_some_iff.mp run
    exact ih middle (kept state item middle start first) later

/-! ### Reading down to some depth -/

/-- The table that came of an assignment, whether it has its value or waits for it. -/
def Assigned.table : Assigned → Settings
  | .settled table => table
  | .begun table _ _ _ => table

/-- What is read down to some depth gives no name twice. -/
structure ReadsDistinct (limit : Nat) : Prop where
  value : ∀ wellFormed text value, readValue? limit wellFormed text = some value → value.Distinct
  table : ∀ text table after, (Setting.table table).Distinct →
    readTable? limit text table = some after → (Setting.table after).Distinct
  assigned : ∀ line table outcome, (Setting.table table).Distinct →
    assign? limit line table = some outcome → (Setting.table outcome.table).Distinct

theorem distinct_readValue? {limit : Nat} (below : ReadsDistinct limit) (wellFormed : Bool)
    (text : List Char) (value : Setting) (read : readValue? (limit + 1) wellFormed text = some value) :
    value.Distinct := by
  have points : ∀ points, (Setting.ofPoints points).Distinct := fun points =>
    .plain (noTable_ofPoints points)
  have flag : ∀ set, (Setting.flag set).Distinct := fun _ => .plain (by rintro ⟨_, ⟨⟩⟩)
  have list : ∀ items, (Setting.list items).Distinct := fun _ => .plain (by rintro ⟨_, ⟨⟩⟩)
  unfold readValue? at read
  split at read
  · cases read
  · cases read
    exact flag _
  · cases read
    exact flag _
  · obtain ⟨chars, -, rfl⟩ := Option.map_eq_some_iff.mp read
    exact points chars
  · obtain ⟨chars, -, rfl⟩ := Option.map_eq_some_iff.mp read
    exact points chars
  · obtain ⟨items, -, rfl⟩ := Option.map_eq_some_iff.mp read
    exact list items
  · obtain ⟨entries, inner, rfl⟩ := Option.map_eq_some_iff.mp read
    -- Only an inline table builds tables, one call further down.
    exact below.table _ [] entries .nil inner
  · exact .plain (noTable_readPlain? read)

theorem distinct_readTable? {limit : Nat} (below : ReadsDistinct limit) (text : List Char)
    (table after : Settings) (distinct : (Setting.table table).Distinct)
    (read : readTable? (limit + 1) text table = some after) : (Setting.table after).Distinct := by
  unfold readTable? at read
  obtain ⟨lines, -, read⟩ := Option.bind_eq_some_iff.mp read
  obtain ⟨outcome, folded, read⟩ := Option.bind_eq_some_iff.mp read
  have held : (Setting.table outcome.table).Distinct := by
    refine foldlM_keeps (fun outcome => (Setting.table outcome.table).Distinct)
      (fun outcome line next held stepped => ?_) lines _ outcome distinct folded
    cases outcome with
    | settled table => exact below.assigned line table next held stepped
    | begun table name block continued =>
      cases stepped
      exact held
  cases outcome <;> cases read <;> exact held

theorem distinct_assign? {limit : Nat} (below : ReadsDistinct limit) (line : List Char)
    (table : Settings) (outcome : Assigned) (distinct : (Setting.table table).Distinct)
    (assigned : assign? (limit + 1) line table = some outcome) :
    (Setting.table outcome.table).Distinct := by
  unfold assign? at assigned
  obtain ⟨cut, -, assigned⟩ := Option.bind_eq_some_iff.mp assigned
  obtain ⟨⟨tables, name⟩, -, assigned⟩ := Option.bind_eq_some_iff.mp assigned
  obtain ⟨isOpen, -, assigned⟩ := Option.bind_eq_some_iff.mp assigned
  split at assigned
  · obtain ⟨⟨after, _⟩, changed, same⟩ := Option.bind_eq_some_iff.mp assigned
    cases same
    refine distinct_inTable? ?_ tables table after _ distinct changed
    -- A value that goes on in the next line is not put under its name yet.
    intro inner after result distinct same
    dsimp only at same
    split at same <;> cases same
    exact distinct
  · obtain ⟨value, read, assigned⟩ := Option.bind_eq_some_iff.mp assigned
    obtain ⟨⟨after, _⟩, changed, same⟩ := Option.bind_eq_some_iff.mp assigned
    cases same
    refine distinct_inTable? ?_ tables table after _ distinct changed
    intro inner after result distinct same
    dsimp only at same
    split at same <;> cases same
    exact distinct.put (below.value _ _ value read) name

theorem readsDistinct (limit : Nat) : ReadsDistinct limit := by
  induction limit with
  | zero =>
    constructor
    · intro _ _ _ read
      cases read
    · intro _ _ _ _ read
      cases read
    · intro _ _ _ _ read
      cases read
  | succ limit ih => exact ⟨distinct_readValue? ih, distinct_readTable? ih, distinct_assign? ih⟩

/-! ### Headers -/

theorem distinct_newTable (isLast addsTable : Bool) : (newTable isLast addsTable).Distinct := by
  unfold newTable
  split
  · exact .plain (by rintro ⟨_, ⟨⟩⟩)
  · exact .nil

theorem distinct_openAgain? {addsTable : Bool} {implied names : List String} {name : String}
    {old value : Setting} (distinct : old.Distinct)
    (opened : openAgain? addsTable implied name old = some (value, names)) : value.Distinct := by
  unfold openAgain? at opened
  split at opened
  · split at opened <;> cases opened
    exact distinct
  · split at opened <;> cases opened
    exact .plain (by rintro ⟨_, ⟨⟩⟩)

theorem distinct_goDown? {addsTable : Bool} {next : Setting → Option Opened}
    (keeps : ∀ value opened, value.Distinct → next value = some opened → opened.value.Distinct)
    {value : Setting} {opened : Opened} (distinct : value.Distinct)
    (went : goDown? addsTable next value = some opened) : opened.value.Distinct := by
  unfold goDown? at went
  split at went
  · exact keeps _ _ distinct went
  · exact keeps _ _ distinct went
  · split at went
    · cases went
    · obtain ⟨last, -, same⟩ := Option.bind_eq_some_iff.mp went
      cases same
      exact .plain (by rintro ⟨_, ⟨⟩⟩)
  · cases went

theorem distinct_open? {addsTable : Bool} {implied : List String} (names : List String)
    {value : Setting} {opened : Opened} (distinct : value.Distinct)
    (found : open? addsTable implied names value = some opened) : opened.value.Distinct := by
  induction names generalizing implied value opened with
  | nil =>
    cases found
    exact distinct
  | cons name rest ih =>
    have deeper : ∀ implied value opened, value.Distinct →
        open? addsTable implied rest value = some opened → opened.value.Distinct :=
      fun _ _ _ distinct found => ih distinct found
    unfold open? at found
    split at found
    · cases ‹_ :: _ = []›
    next first others entries same =>
      cases same
      -- Whatever stands under the name, what comes of it is put back there.
      have back : ∀ inner implied opened, inner.Distinct →
          (do
            let opened ← goDown? addsTable (open? addsTable implied rest) inner
            return { opened with
              value := .table (Settings.put name opened.value entries),
              way := .name name :: opened.way }) = some opened → opened.value.Distinct := by
        intro inner implied opened held found
        obtain ⟨below, went, same⟩ := Option.bind_eq_some_iff.mp found
        cases same
        exact distinct.put (distinct_goDown? (deeper implied) held went) name
      dsimp only at found
      split at found
      · exact back _ _ opened (distinct_newTable _ _) found
      next old held =>
        have there := distinct.lookup held
        split at found
        · obtain ⟨⟨inner, implied⟩, met, found⟩ := Option.bind_eq_some_iff.mp found
          exact back inner implied opened (distinct_openAgain? there met) found
        · exact back old _ opened there found
    · -- What lies inside a list is not a table of the setting.
      split at found
      · obtain ⟨opened, -, same⟩ := Option.bind_eq_some_iff.mp found
        cases same
        exact .plain (by rintro ⟨_, ⟨⟩⟩)
      · cases found
    · cases found

/-! ### The document -/

theorem distinct_atWay? {α : Type} {change : Settings → Option (Settings × α)} (keeps : Keeps change)
    (way : List Step) {value after : Setting} {result : α} (distinct : value.Distinct)
    (changed : atWay? change way value = some (after, result)) : after.Distinct := by
  induction way generalizing value after with
  | nil =>
    unfold atWay? at changed
    split at changed
    next entries _ =>
      obtain ⟨⟨table, _⟩, inner, same⟩ := Option.map_eq_some_iff.mp changed
      cases same
      exact keeps entries table result distinct inner
    · cases ‹[] = _ :: _›
    · cases ‹[] = _ :: _›
    · cases changed
  | cons step rest ih =>
    unfold atWay? at changed
    split at changed
    · cases ‹_ :: _ = []›
    next name others entries same =>
      cases same
      obtain ⟨old, held, changed⟩ := Option.bind_eq_some_iff.mp changed
      obtain ⟨⟨inner, _⟩, below, same⟩ := Option.bind_eq_some_iff.mp changed
      cases same
      exact distinct.put (ih (distinct.lookup held) below) name
    -- A step to the last of a list leaves a list, which is no table whatever it holds.
    · obtain ⟨last, -, changed⟩ := Option.bind_eq_some_iff.mp changed
      obtain ⟨⟨inner, _⟩, -, same⟩ := Option.bind_eq_some_iff.mp changed
      cases same
      exact .plain (by rintro ⟨_, ⟨⟩⟩)
    · cases changed

namespace Document

variable {document after : Document}

theorem distinct_change? {α : Type} {change : Settings → Option (Settings × α)} (keeps : Keeps change)
    {result : α} (distinct : document.settings.Distinct)
    (changed : document.change? change = some (after, result)) : after.settings.Distinct := by
  obtain ⟨⟨settings, _⟩, inner, same⟩ := Option.bind_eq_some_iff.mp changed
  cases same
  exact distinct_atWay? keeps document.way distinct inner

theorem distinct_readBlockLine? {block : Block} {line : List Char}
    (distinct : document.settings.Distinct)
    (read : document.readBlockLine? block line = some after) : after.settings.Distinct := by
  unfold readBlockLine? at read
  obtain ⟨isLast, -, read⟩ := Option.bind_eq_some_iff.mp read
  split at read
  · obtain ⟨value, spelled, read⟩ := Option.bind_eq_some_iff.mp read
    obtain ⟨⟨next, _⟩, changed, same⟩ := Option.bind_eq_some_iff.mp read
    cases same
    refine (distinct_change? ?_ distinct changed : next.settings.Distinct)
    intro table after result held same
    cases same
    exact held.put ((readsDistinct document.limit).value _ _ value spelled) block.name
  · cases read
    exact distinct

theorem distinct_readHeader? {line : List Char} (distinct : document.settings.Distinct)
    (read : document.readHeader? line = some after) : after.settings.Distinct := by
  obtain ⟨header, -, read⟩ := Option.bind_eq_some_iff.mp read
  obtain ⟨opened, found, same⟩ := Option.bind_eq_some_iff.mp read
  cases same
  exact distinct_open? header.names distinct found

theorem distinct_readBraces? {line : List Char} (distinct : document.settings.Distinct)
    (read : document.readBraces? line = some after) : after.settings.Distinct := by
  unfold readBraces? at read
  split at read
  · cases read
  · obtain ⟨⟨next, _⟩, changed, same⟩ := Option.bind_eq_some_iff.mp read
    cases same
    refine distinct_change? ?_ distinct changed
    intro table after result held inner
    obtain ⟨entries, inside, same⟩ := Option.bind_eq_some_iff.mp inner
    cases same
    exact (readsDistinct document.limit).table line table _ held inside

theorem distinct_readAssignment? {line : List Char} (distinct : document.settings.Distinct)
    (read : document.readAssignment? line = some after) : after.settings.Distinct := by
  obtain ⟨⟨next, _⟩, changed, same⟩ := Option.bind_eq_some_iff.mp read
  cases same
  refine (distinct_change? ?_ distinct changed : next.settings.Distinct)
  intro table after result held inner
  obtain ⟨outcome, assigned, same⟩ := Option.bind_eq_some_iff.mp inner
  have whole := (readsDistinct document.limit).assigned line table outcome held assigned
  cases outcome <;> cases same <;> exact whole

theorem distinct_readLine? {line : List Char} (distinct : document.settings.Distinct)
    (read : document.readLine? line = some after) : after.settings.Distinct := by
  have plain : ∀ line, document.readPlainLine? line = some after → after.settings.Distinct := by
    intro line read
    unfold readPlainLine? at read
    split at read
    · cases read
      exact distinct
    · exact distinct_readHeader? distinct read
    · exact distinct_readBraces? distinct read
    · split at read
      · exact distinct_readAssignment? distinct read
      · cases read
        exact distinct
  have block : ∀ (block : Block) (line : List Char),
      (if line.isEmpty && block.continued then some document
        else document.readBlockLine? block line) = some after → after.settings.Distinct := by
    intro block line read
    split at read
    · cases read
      exact distinct
    · exact distinct_readBlockLine? distinct read
  -- A line inside an open value or string is read as its block; any other by itself.
  unfold readLine? at read
  split at read
  · exact plain _ read
  next begun _ => exact block begun _ read

end Document

theorem distinct_of_read? {limit : Nat} {text : List Char} {settings : Settings}
    (read : read? limit text = some settings) : (Setting.table settings).Distinct := by
  obtain ⟨lines, -, read⟩ := Option.bind_eq_some_iff.mp read
  obtain ⟨document, folded, read⟩ := Option.bind_eq_some_iff.mp read
  have whole := foldlM_keeps (fun document => document.settings.Distinct)
    (fun _ _ _ held step => Document.distinct_readLine? held step) lines { limit } document .nil folded
  split at read
  next entries same =>
    cases read
    rwa [same] at whole
  · cases read

end KeyBindings.Toml
