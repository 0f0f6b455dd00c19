import KeyBindings.Binder
import KeyBindings.Proofs.Files.Writing
import KeyBindings.Proofs.Key.UsualNames
import KeyBindings.Proofs.KeysFile.Reload
import KeyBindings.Proofs.KeysFile.Storage

/-!
# Starting with a keys file

A binder that loads a keys file takes the keys that its lines give, adds default keys for the actions
that are missing from them, and writes the file again when it had to. A file that was complete, or
whose missing actions could not get their default keys, stays as it is.
-/
namespace KeyBindings

namespace Binder

variable {binder : Binder} {host : Host} {path : Path} {content : Text.Utf8.Octets}
  {report : KeysFile.Report}

/-- A load starts from an empty table, so only the keyboard of the old one counts. -/
theorem load_withTable (table : Table) (same : table.keyboard = binder.table.keyboard) :
    ({ binder with table } : Binder).load host path = binder.load host path := by
  have reset : table.reset = binder.table.reset := by rw [Table.reset, same]; rfl
  simp only [load, reset]

theorem repair_unfilled (host : Host) (path : Path) (table : Table) (none : report.filled = 0) :
    repair host path table report = ⟨host, [], .ok ()⟩ := by
  simp [repair, none]

/-- A repair that is due and ends well has written the file. -/
theorem repair_filled {table : Table} (some : 0 < report.filled) (fileRead : report.fileRead = true)
    (done : (repair host path table report).result = .ok ()) :
    host.writeWhole path (KeysFile.render table) =
      ⟨(repair host path table report).host, none, .ok ()⟩ := by
  have due : (0 < report.filled && report.fileRead) = true := by simp [some, fileRead]
  rw [repair, if_pos due, KeysFile.save, KeysFile.store] at done ⊢
  split at done
  next written => exact Host.writeWhole_ok written
  · cases done

theorem provide_readable (readable : host.tree.read host.here path = .ok content) :
    provide host path = ⟨host, [], .ok ()⟩ := by
  simp only [provide, Tree.isThere_of_read readable]

theorem loadFile_readable (readable : host.tree.read host.here path = .ok content) (table : Table) :
    let loading := KeysFile.load table (KeysFile.fileLines content)
    KeysFile.loadFile host path table = loading.complete (KeysFile.loadRecords loading.report) := by
  simp only [KeysFile.loadFile, readable]

/-- A load of a file that can be read ends well when its two parts do. -/
theorem load_of_parts {table : Table} {after : Host} {notes more : List Journal.Record}
    (readable : host.tree.read host.here path = .ok content)
    (completed : KeysFile.loadFile host path (Table.fresh binder.table.keyboard) =
      ⟨table, notes, .ok report⟩)
    (repaired : repair host path table report = ⟨after, more, .ok ()⟩) :
    (binder.load host path).result = .ok report ∧ (binder.load host path).host = after ∧
      (binder.load host path).binder = { binder with table } := by
  have provided := provide_readable readable
  have reset : binder.table.reset = Table.fresh binder.table.keyboard := rfl
  simp only [load, provided, reset, completed, repaired, and_self]

theorem load_present (readable : host.tree.read host.here path = .ok content)
    (present : ∀ action, (KeysFile.load (Table.fresh binder.table.keyboard)
      (KeysFile.fileLines content)).table.isMissing action = false) :
    let loading := KeysFile.load (Table.fresh binder.table.keyboard) (KeysFile.fileLines content)
    (binder.load host path).result = .ok loading.report ∧ (binder.load host path).host = host ∧
      (binder.load host path).binder = { binder with table := loading.table } := by
  intro loading
  have completed := (loadFile_readable readable (Table.fresh binder.table.keyboard)).trans
    (KeysFile.Loading.complete_of_present _ present)
  exact load_of_parts readable completed
    (repair_unfilled host path loading.table (KeysFile.load_report _ _).1)

theorem load_missing {table : Table} {filled : Nat} {after : Host} (some : 0 < filled)
    (readable : host.tree.read host.here path = .ok content)
    (fill : (KeysFile.load (Table.fresh binder.table.keyboard)
      (KeysFile.fileLines content)).table.fillMissing = (table, .ok filled))
    (written : host.writeWhole path (KeysFile.render table) = ⟨after, none, .ok ()⟩) :
    let loading := KeysFile.load (Table.fresh binder.table.keyboard) (KeysFile.fileLines content)
    (binder.load host path).result = .ok { loading.report with filled } ∧
      (binder.load host path).host = after ∧
      (binder.load host path).binder = { binder with table } := by
  intro loading
  have completed := (loadFile_readable readable (Table.fresh binder.table.keyboard)).trans
    (KeysFile.Loading.complete_of_missing _ fill some)
  have fileRead : loading.report.fileRead = true := (KeysFile.load_report _ _).2
  -- Keys were filled in from a file that was read, so the table is written back.
  have due : (0 < filled && loading.report.fileRead) = true := by simp [some, fileRead]
  obtain ⟨records, repaired⟩ : ∃ records,
      repair host path table { loading.report with filled } = ⟨after, records, .ok ()⟩ :=
    ⟨_, by rw [repair, if_pos due, KeysFile.save, KeysFile.store, written]⟩
  exact load_of_parts readable completed repaired

/-- What a load of a file that can be read comes to when it ends well. Either no action was missing
from the file, which stays as it is, or the missing ones got default keys and the file is written. -/
theorem load_readable (readable : host.tree.read host.here path = .ok content)
    (loaded : (binder.load host path).result = .ok report) :
    let loading := KeysFile.load (Table.fresh binder.table.keyboard) (KeysFile.fileLines content)
    let after := binder.load host path
    (report.filled = 0 ∧ loading.table.missingActions = [] ∧ after.host = host ∧
      after.binder = { binder with table := loading.table }) ∨
    ∃ table, 0 < report.filled ∧ loading.table.fillMissing = (table, .ok report.filled) ∧
      after.binder = { binder with table } ∧
      host.writeWhole path (KeysFile.render table) = ⟨after.host, none, .ok ()⟩ := by
  intro loading after
  have provided := provide_readable readable
  have reset : binder.table.reset = Table.fresh binder.table.keyboard := rfl
  have file := loadFile_readable readable (Table.fresh binder.table.keyboard)
  obtain ⟨unfilled, fileRead⟩ := KeysFile.load_report (Table.fresh binder.table.keyboard)
    (KeysFile.fileLines content)
  simp only [after, load, provided, reset, file] at loaded ⊢
  split at loaded
  · cases loaded
  next first completed =>
    split at loaded
    · cases loaded
    next repaired =>
      obtain rfl := Except.ok.inj loaded
      -- Only a load that filled something in has to write the file.
      rcases KeysFile.Loading.complete_ok completed with ⟨none, table, rfl⟩ | ⟨filled, fill, more, rfl⟩
      · have kept := repair_unfilled host path
          (loading.complete (KeysFile.loadRecords loading.report)).table unfilled
        exact .inl ⟨unfilled, none, congrArg KeysFile.Outcome.host kept,
          congrArg (fun table => ({ binder with table } : Binder)) table⟩
      · exact .inr ⟨_, more, fill, rfl, repair_filled more fileRead repaired⟩

theorem load_aborted {fault : KeysFile.LoadError}
    (readable : host.tree.read host.here path = .ok content)
    (aborted : (binder.load host path).result = .error (.load fault)) :
    (binder.load host path).host = host := by
  have provided := provide_readable readable
  have reset : binder.table.reset = Table.fresh binder.table.keyboard := rfl
  cases completed : (KeysFile.loadFile host path (Table.fresh binder.table.keyboard)).result with
  | error reason => simp only [load, provided, reset, completed]
  | ok report =>
    -- From here on only the writing of the file can fail.
    simp only [load, provided, reset, completed] at aborted
    split at aborted <;> cases aborted

/-! ### A file with one key -/

/-- The lines of a keys file that gives an action one key, leaves another action out, and says of
all others that they have no key. -/
def oneKeyLines (name : String) : List String :=
  (Action.quit.label ++ "  " ++ String.join ([name].map (· ++ " "))) ::
    (Action.all.filter fun action => action ≠ .quit ∧ action ≠ .cancel).map
      fun action => action.label ++ "  " ++ Table.undefinedMark

section

variable {name : String} {code : Int}

theorem oneKeyLines_solid (isName : IsKeyName name) (c : Char) (isBlank : Text.isAsciiBlank c = true)
    (other : c ≠ ' ') : ∀ line ∈ oneKeyLines name, c ∉ line.toList := by
  have absent := fun name isName => KeysFile.not_mem_of_isKeyName (c := c) name isName isBlank
  intro line member
  rcases List.mem_cons.mp member with rfl | marked
  · have label := absent _ Action.quit.isKeyName_label
    have key := absent name isName
    simpa [label, other] using key
  · obtain ⟨action, -, rfl⟩ := List.mem_map.mp marked
    have label := absent _ action.isKeyName_label
    have mark := absent Table.undefinedMark KeysFile.isKeyName_mark
    simp [label, mark, other]

theorem load_oneKeyLines (isName : IsKeyName name) (unlike : name ≠ Table.undefinedMark)
    (stands : Keyboard.usual.codeOf name = code) (valid : Keyboard.usual.limits.isValid code = true) :
    let table := (KeysFile.load (Table.fresh .usual) ((oneKeyLines name).map Text.points)).table
    table.keyboard = .usual ∧ table.Consistent ∧ ∀ action, table.binding action =
      if action = .quit then ⟨.configured, [code]⟩
      else if action = .cancel then {} else ⟨.undefined, []⟩ := by
  have parsed : KeysFile.parseLine?
      (Action.quit.label ++ "  " ++ String.join ([name].map (· ++ " ")) : String) =
        some (↑Action.quit.label, [Text.points name]) := by
    rw [KeysFile.points_line]
    exact KeysFile.parseLine?_names _ _ Action.quit.isKeyName_label Action.quit.label_no_comment
      (by simpa using isName)
  have isCode : Keyboard.usual.limits.isValid (Keyboard.usual.codeOfPoints name) = true := by
    rw [Keyboard.codeOfPoints_points, stands]
    exact valid
  have none : (Table.fresh .usual).codes .quit = [] := by simp [Table.codes]
  obtain ⟨table, bound, keyboard, consistent, mine, theirs⟩ :=
    @KeysFile.Loading.bindNames_free ⟨Table.fresh .usual, {}⟩ .quit 1 [Text.points name] (by decide)
      (.fresh .usual) (List.nodup_singleton _) (fun _ _ => Table.lookup_fresh _ _) (by
        intro other member
        obtain rfl := List.mem_singleton.mp member
        exact isCode)
  have positive : 1 ≤ table.limits.keyMin := by
    rw [Table.limits, keyboard]
    decide
  -- The first line has bound the key, and the marks on the others leave it alone.
  obtain ⟨same, held, binding⟩ := @KeysFile.Loading.readLines_marks ⟨table, { assigned := 1 }⟩ 2
    (Action.all.filter fun action => action ≠ .quit ∧ action ≠ .cancel) positive consistent
  have lines : (oneKeyLines name).map Text.points =
      Text.points (Action.quit.label ++ "  " ++ String.join ([name].map (· ++ " "))) ::
        (Action.all.filter fun action => action ≠ .quit ∧ action ≠ .cancel).map
          fun action => Text.points (action.label ++ "  " ++ Table.undefinedMark) := by
    rw [oneKeyLines, List.map_cons, List.map_map]
    rfl
  rw [KeysFile.load, lines, KeysFile.Loading.readLines,
    KeysFile.Loading.readLine_names 1 parsed (by simp) (by simpa using unlike), bound]
  refine ⟨same.trans keyboard, held, fun action => (binding action).trans ?_⟩
  by_cases quit : action = .quit
  · subst quit
    rw [if_pos rfl, if_neg (by simp), mine, if_neg (by simp), none]
    simp [Table.fresh, stands]
  · by_cases cancel : action = .cancel
    · rw [if_neg quit, if_pos cancel, if_neg (by simp [cancel]), theirs action quit]
      exact Table.binding_fresh _ _
    · simp [quit, cancel, Action.mem_all]

theorem codeOf_escape : Keyboard.usual.codeOf "ESC" = 27 := by
  have named : Keyboard.usual.keyName (27 : Nat) = "ESC" := rfl
  have back := @Keyboard.codeOf_keyName 27 (.inl (by omega)) (by rw [named]; decide)
  rwa [named] at back

/-- The action that was left out gets its default key. -/
theorem fill_oneKeyLines (isName : IsKeyName name) (unlike : name ≠ Table.undefinedMark)
    (stands : Keyboard.usual.codeOf name = code) (valid : Keyboard.usual.limits.isValid code = true)
    (free : code ≠ 27) :
    ∃ after,
      (KeysFile.load (Table.fresh .usual) ((oneKeyLines name).map Text.points)).table.fillMissing =
        (after, .ok 1) ∧
      ∀ action, after.binding action =
        if action = .quit then ⟨.configured, [code]⟩
        else if action = .cancel then ⟨.configured, [27]⟩ else ⟨.undefined, []⟩ := by
  obtain ⟨keyboard, consistent, binding⟩ := load_oneKeyLines isName unlike stands valid
  generalize (KeysFile.load (Table.fresh .usual) ((oneKeyLines name).map Text.points)).table = table at *
  -- The default key of the missing action is free: the file binds one other key.
  have unowned : table.lookup 27 = none := by
    apply (consistent.unowned_iff 27).mpr
    intro action
    rw [Table.codes, binding]
    split
    · simpa using free.symm
    · split <;> simp
  obtain ⟨after, assigned⟩ :=
    Table.assign_free unowned (by rw [Table.limits, keyboard]; decide) .cancel
  have missing : table.isMissing .cancel = true := by
    rw [Table.isMissing, Table.state, binding]
    rfl
  have named : table.assignNames .cancel Action.cancel.defaultKeys = (after, none) := by
    have key : Action.cancel.defaultKeys = ["ESC"] := rfl
    simp only [key, Table.assignNames, keyboard, codeOf_escape, assigned]
  -- All other actions have a key or a mark, so the walk passes them by.
  have present : ∀ action ∈ Action.all.tail, after.isMissing action = false := by
    intro action member
    have other : action ≠ .cancel := by
      rintro rfl
      exact absurd member (by decide)
    rw [Table.isMissing, Table.state, Table.binding_assign assigned, if_neg other, binding, if_neg other]
    split <;> rfl
  refine ⟨after, ?_, fun action => ?_⟩
  · have list : Action.all = .cancel :: Action.all.tail := rfl
    rw [Table.fillMissing, list, Table.fillActions, if_pos missing, named]
    exact Table.fillActions_present after _ 1 present
  · have none : table.codes .cancel = [] := by
      rw [Table.codes, binding]
      rfl
    rw [Table.binding_assign assigned, binding, none]
    by_cases cancel : action = .cancel
    · simp [cancel]
    · simp [cancel]

def freshBinder : Binder := ⟨Table.fresh .usual, ⟨.root, ["keys"]⟩, .make 6⟩

/-- A host with these lines in the keys file. -/
def oneKeyHost (name : String) : Host := .keeping (Text.Utf8.encode (Text.unlines (oneKeyLines name)))

theorem read_oneKeyHost (name : String) :
    (oneKeyHost name).tree.read (oneKeyHost name).here freshBinder.keysFile =
      .ok (Text.Utf8.encode (Text.unlines (oneKeyLines name))) :=
  Host.read_keeping _

theorem load_oneKeyHost (isName : IsKeyName name) (unlike : name ≠ Table.undefinedMark)
    (stands : Keyboard.usual.codeOf name = code) (valid : Keyboard.usual.limits.isValid code = true)
    (free : code ≠ 27) :
    let loaded := freshBinder.load (oneKeyHost name) freshBinder.keysFile
    (∃ report, loaded.result = .ok report ∧ report.filled = 1) ∧
      ∀ action, loaded.binder.table.binding action =
        if action = .quit then ⟨.configured, [code]⟩
        else if action = .cancel then ⟨.configured, [27]⟩ else ⟨.undefined, []⟩ := by
  -- The name holds neither line feed nor carriage return, so the file splits as it was joined.
  have lines : KeysFile.fileLines (Text.Utf8.encode (Text.unlines (oneKeyLines name))) =
      (oneKeyLines name).map Text.points := by
    have unbroken := oneKeyLines_solid isName '\n' (by decide) (by decide)
    have plain : '\r' ∉ (Text.unlines (oneKeyLines name)).toList := by
      simp only [Text.unlines, String.toList_join, List.flatMap_map, List.mem_flatMap,
        String.toList_append, List.mem_append, not_exists, not_and, not_or]
      exact fun line member => ⟨oneKeyLines_solid isName '\r' (by decide) (by decide) line member,
        by decide⟩
    rw [KeysFile.fileLines_encode _ plain, KeysFile.textLines_eq, Text.lines_unlines _ unbroken]
  obtain ⟨table, fill, binding⟩ := fill_oneKeyLines isName unlike stands valid free
  have given : (KeysFile.load (Table.fresh freshBinder.table.keyboard) (KeysFile.fileLines
      (Text.Utf8.encode (Text.unlines (oneKeyLines name))))).table.fillMissing = (table, .ok 1) := by
    rw [lines]
    exact fill
  obtain ⟨result, -, binder_eq⟩ :=
    load_missing (by omega) (read_oneKeyHost name) given (Host.writeWhole_keeping _ _)
  exact ⟨⟨_, result, rfl⟩, fun action => by rw [binder_eq]; exact binding action⟩

end

/-! ### The whole load -/

/-- A file that can be read is loaded the same whatever keys the binder had. When the load ends well,
no action is missing, the actions that were missing from the lines are counted, and all others have
what the lines gave them. The file is as before when no action was missing, and else it holds what is
written for the table. When the load stops at a default key, the file is as before. -/
theorem load_completes (binder : Binder) (host : Host) (path : Path) (content : Text.Utf8.Octets)
    (readable : host.tree.read host.here path = .ok content) :
    let lines := KeysFile.load (Table.fresh binder.table.keyboard) (KeysFile.fileLines content)
    let loaded := binder.load host path
    (∀ report, loaded.result = .ok report →
      (∀ action, loaded.binder.table.isMissing action = false) ∧
      report.filled = lines.table.missingActions.length ∧
      (∀ action, lines.table.isMissing action = false →
        loaded.binder.table.binding action = lines.table.binding action) ∧
      (report.filled = 0 → loaded.host = host) ∧
      (0 < report.filled → loaded.host.tree.read loaded.host.here path =
        .ok (Text.Utf8.encode (KeysFile.render loaded.binder.table)))) ∧
    (∀ fault, loaded.result = .error (.load (.corrupt fault)) → loaded.host = host) ∧
    ∀ table, table.keyboard = binder.table.keyboard →
      ({ binder with table } : Binder).load host path = loaded := by
  intro lines loaded
  refine ⟨fun report ended => ?_, fun fault aborted => load_aborted readable aborted,
    fun table same => load_withTable table same⟩
  -- Either no action was missing, or the filled table was written to the file.
  rcases load_readable readable ended with
    ⟨unfilled, none, host_eq, binder_eq⟩ | ⟨table, filled, fill, binder_eq, written⟩
  · refine ⟨?_, by rw [unfilled, none, List.length_nil], ?_, fun _ => host_eq, fun more => ?_⟩
    · rw [binder_eq]
      exact Table.missingActions_eq_nil.mp none
    · intro action _
      rw [binder_eq]
    · omega
  · have complete := Table.fillMissing_ok fill
    obtain ⟨here, read⟩ := Host.read_writeWhole written
    refine ⟨?_, complete.2, ?_, fun none => ?_, fun _ => ?_⟩
    · rw [binder_eq]
      exact complete.1
    · intro action present
      have kept := Table.binding_fillMissing present
      rw [fill] at kept
      rw [binder_eq]
      exact kept
    · omega
    · rw [binder_eq, here]
      exact read

/-- The file that leaves one action out is written again, with that action's default key. -/
theorem load_completes_named :
    let host := oneKeyHost "q"
    let loaded := freshBinder.load host freshBinder.keysFile
    (∃ content, host.tree.read host.here freshBinder.keysFile = .ok content) ∧
      (∃ report, loaded.result = .ok report ∧ report.filled = 1) ∧
      (∀ action, loaded.binder.table.isMissing action = false) ∧
      loaded.host.tree.read loaded.host.here freshBinder.keysFile =
        .ok (Text.Utf8.encode (KeysFile.render loaded.binder.table)) := by
  have readable := read_oneKeyHost "q"
  have stands : Keyboard.usual.codeOf "q" = 113 :=
    Keyboard.codeOf_graphic (c := 'q') ⟨by decide, by decide⟩
  obtain ⟨⟨report, result, filled⟩, -⟩ :=
    @load_oneKeyHost "q" _ (by decide) (by decide) stands (by decide) (by decide)
  obtain ⟨present, -, -, -, written⟩ :=
    (load_completes freshBinder (oneKeyHost "q") freshBinder.keysFile _ readable).1 report result
  exact ⟨⟨_, readable⟩, ⟨report, result, filled⟩, present, written (by omega)⟩

end Binder

end KeyBindings
