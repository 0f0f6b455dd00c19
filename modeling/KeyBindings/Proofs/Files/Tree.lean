import KeyBindings.Files.Tree
import KeyBindings.Proofs.Entries

/-!
# What stands where

A tree of files is seen as a map from places: nothing, a folder, or a file with its content
stands at each. Every change of a tree changes that map at one place. Where a path leads depends
only on which places are folders.
-/
namespace KeyBindings

def Entry.content? : Entry → Option Text.Utf8.Octets
  | .file content => some content
  | .folder _ => none

/-! ### Folders -/

namespace Folder

variable {folder : Folder} {place other : Place} {name : String} {entry : Entry}

/-- What stands at a place, without what stands below it. -/
def view (folder : Folder) (place : Place) : Option (Option Text.Utf8.Octets) :=
  (folder.find? place).map Entry.content?

@[simp] theorem view_nil (folder : Folder) : folder.view [] = some none := by
  simp [view, find?, Entry.content?]

theorem view_cons_none (rest : Place) (absent : folder.lookup name = none) :
    folder.view (name :: rest) = none := by
  simp [view, find?, absent]

theorem view_cons_file {content : Text.Utf8.Octets} (rest : Place)
    (found : folder.lookup name = some (.file content)) :
    folder.view (name :: rest) = if rest = [] then some (some content) else none := by
  cases rest <;> simp [view, find?, found, Entry.content?]

theorem view_cons_folder {inner : Folder} (rest : Place)
    (found : folder.lookup name = some (.folder inner)) :
    folder.view (name :: rest) = Folder.view inner rest := by
  cases rest <;> simp [view, find?, found, Entry.content?]

/-- Only what is not looked for distinguishes two folders that hold the same under a name. -/
theorem view_cons_congr {folder folder' : Folder} (rest : Place)
    (same : folder.lookup name = folder'.lookup name) :
    folder.view (name :: rest) = folder'.view (name :: rest) := by
  cases found : folder'.lookup name with
  | none => rw [view_cons_none rest found, view_cons_none rest (same.trans found)]
  | some entry =>
    cases entry with
    | file content => rw [view_cons_file rest found, view_cons_file rest (same.trans found)]
    | folder inner => rw [view_cons_folder rest found, view_cons_folder rest (same.trans found)]

theorem lookup_of_view (rest : Place) (isFolder : folder.view (name :: rest) = some none) :
    ∃ inner, folder.lookup name = some (.folder inner) ∧ Folder.view inner rest = some none := by
  cases found : folder.lookup name with
  | none =>
    rw [view_cons_none rest found] at isFolder
    cases isFolder
  | some entry =>
    cases entry with
    | file content =>
      rw [view_cons_file rest found] at isFolder
      split at isFolder <;> cases isFolder
    | folder inner => exact ⟨inner, rfl, by rwa [view_cons_folder rest found] at isFolder⟩

theorem set_eq_put (name : String) (entry : Entry) (folder : Folder) :
    folder.set name entry = Entries.put name entry folder := by
  induction folder with
  | nil => rfl
  | cons first rest ih =>
    obtain ⟨held, old⟩ := first
    rw [Folder.set, Entries.put, ih]

theorem lookup_set (folder : Folder) (name other : String) (entry : Entry) :
    (folder.set name entry).lookup other = if other = name then some entry else folder.lookup other := by
  rw [set_eq_put, Entries.lookup_put]

/-- An entry with nothing below it, as every one that is put into a tree. -/
def IsBare : Entry → Prop
  | .file _ => True
  | .folder inner => inner = []

theorem view_of_bare (rest : Place) (bare : IsBare entry) (found : folder.lookup name = some entry) :
    folder.view (name :: rest) = if rest = [] then some entry.content? else none := by
  cases entry with
  | file content => exact view_cons_file rest found
  | folder inner =>
    cases bare
    rw [view_cons_folder rest found]
    cases rest with
    | nil => rfl
    | cons first more => exact view_cons_none more rfl

theorem find?_append (folder : Folder) (above : Place) (name : String) :
    folder.find? (above ++ [name]) =
      match folder.find? above with
      | some (.folder inner) => inner.lookup name
      | _ => none := by
  induction above generalizing folder with
  | nil =>
    cases found : folder.lookup name with
    | none => simp [find?, found]
    | some entry => cases entry <;> simp [find?, found]
  | cons first above ih =>
    cases found : folder.lookup first with
    | none => simp [find?, found]
    | some entry =>
      cases entry with
      -- A file has nothing below it, whatever names follow.
      | file content => cases above <;> simp [find?, found]
      | folder inner =>
        have tail := ih inner
        cases above with
        | nil => simpa [find?, found] using tail
        | cons second above => simpa [find?, found] using tail

/-- Whatever stands at a place, the place above it is a folder. -/
theorem view_above (folder : Folder) (above : Place) (name : String)
    (there : folder.view (above ++ [name]) ≠ none) : folder.view above = some none := by
  rw [view, find?_append] at there
  rw [view]
  cases found : folder.find? above with
  | none => simp [found] at there
  | some entry =>
    cases entry with
    | file content => simp [found] at there
    | folder inner => rfl

/-- A change that is carried down to a folder on the way changes what it changes there. -/
theorem view_below (change : Place → Folder → Folder) (name : String)
    (held value : Option (Option Text.Utf8.Octets))
    (inward : ∀ first above (folder inner : Folder), folder.lookup first = some (.folder inner) →
      change (first :: above ++ [name]) folder =
        folder.set first (.folder (change (above ++ [name]) inner)))
    (atEnd : ∀ folder : Folder, folder.view [name] = held → ∀ other,
      (change [name] folder).view other = if other = [name] then value else folder.view other)
    (folder : Folder) (above : Place) (isFolder : folder.view above = some none)
    (before : folder.view (above ++ [name]) = held) (other : Place) :
    (change (above ++ [name]) folder).view other =
      if other = above ++ [name] then value else folder.view other := by
  induction above generalizing folder other with
  | nil => exact atEnd folder before other
  | cons first above ih =>
    -- The induction goes down the place; what is carried along is that the way there exists.
    obtain ⟨inner, found, isInner⟩ := lookup_of_view above isFolder
    rw [List.cons_append, view_cons_folder _ found] at before
    rw [inward first above folder inner found]
    cases other with
    | nil => simp
    | cons second rest =>
      have now := lookup_set folder first second (.folder (change (above ++ [name]) inner))
      -- Only the folder on the way is another one; places under other names are as before.
      by_cases here : second = first
      · subst here
        rw [if_pos rfl] at now
        rw [view_cons_folder rest now, ih inner isInner before, view_cons_folder rest found]
        simp
      · rw [if_neg here] at now
        rw [view_cons_congr rest now]
        simp [here]

theorem view_cons_nothing (rest : Place) (noFolder : folder.view [name] ≠ some none)
    (below : rest ≠ []) : folder.view (name :: rest) = none := by
  cases held : folder.lookup name with
  | none => exact view_cons_none rest held
  | some entry =>
    cases entry with
    | file content => rw [view_cons_file rest held, if_neg below]
    | folder inner => exact absurd (view_cons_folder [] held) (by simpa using noFolder)

/-- Where only what stands under one name differs, and no folder stood there, the change is seen at
that name alone. -/
theorem view_of_lookup {folder' : Folder} (value : Option (Option Text.Utf8.Octets))
    (others : ∀ other, other ≠ name → folder'.lookup other = folder.lookup other)
    (now : ∀ rest, folder'.view (name :: rest) = if rest = [] then value else none)
    (noFolder : folder.view [name] ≠ some none) (other : Place) :
    folder'.view other = if other = [name] then value else folder.view other := by
  cases other with
  | nil => simp
  | cons first rest =>
    -- Below the name the new entry answers; beside it every entry is the old one.
    by_cases here : first = name
    · subst here
      rw [now]
      by_cases last : rest = []
      · simp [last]
      · simp [last, view_cons_nothing rest noFolder last]
    · rw [view_cons_congr rest (others first here)]
      simp [here]

/-- Putting an entry where no folder is changes what stands there and nothing else. -/
theorem view_put (bare : IsBare entry) (folder : Folder) (above : Place) (name : String)
    (isFolder : folder.view above = some none) (free : folder.view (above ++ [name]) ≠ some none)
    (other : Place) :
    (Folder.put entry (above ++ [name]) folder).view other =
      if other = above ++ [name] then some entry.content? else folder.view other := by
  refine view_below (Folder.put entry) name (folder.view (above ++ [name])) _ ?_ ?_ folder above
    isFolder rfl other
  · intro first above folder inner found
    cases above <;> simp [Folder.put, found]
  · intro folder held other
    rw [← held] at free
    have found := lookup_set folder name
    refine view_of_lookup _ (fun other differ => ?_) (fun rest => ?_) free other
    · exact (found other entry).trans (if_neg differ)
    · exact view_of_bare rest bare ((found name entry).trans (if_pos rfl))

/-- Taking a file away changes what stands at its place and nothing else. -/
theorem view_erase (folder : Folder) (above : Place) (name : String) (content : Text.Utf8.Octets)
    (isFile : folder.view (above ++ [name]) = some (some content)) (other : Place) :
    (Folder.erase (above ++ [name]) folder).view other =
      if other = above ++ [name] then none else folder.view other := by
  have isFolder := view_above folder above name (by simp [isFile])
  refine view_below Folder.erase name (some (some content)) none ?_ ?_ folder above isFolder isFile
    other
  · intro first above folder inner found
    cases above <;> simp [Folder.erase, found]
  · intro folder held other
    have found := fun other => Entries.lookup_filter name other folder
    refine view_of_lookup _ (fun other differ => ?_) (fun rest => ?_) (by simp [held]) other
    · exact (found other).trans (if_neg differ)
    · refine (view_cons_none rest ((found name).trans (if_pos rfl))).trans ?_
      split <;> rfl

end Folder

/-! ### Trees -/

namespace Tree

variable {tree after : Tree} {here : Place} {path : Path} {place other : Place} {entry : Entry}

/-- What stands at a place: nothing, a folder, or a file with its content. -/
def view (tree : Tree) (place : Place) : Option (Option Text.Utf8.Octets) := tree.root.view place

theorem view_eq_find? (tree : Tree) (place : Place) :
    tree.view place = (tree.find? place).map Entry.content? := rfl

/-- A place where something can be put: below a folder. -/
def HasRoom (tree : Tree) (place : Place) : Prop :=
  ∃ above name, place = above ++ [name] ∧ tree.view above = some none

theorem hasRoom_of_view (there : tree.view place ≠ none) (inside : place ≠ []) :
    tree.HasRoom place := by
  obtain ⟨above, name, rfl⟩ : ∃ above name, place = above ++ [name] :=
    ⟨place.dropLast, place.getLast inside, (List.dropLast_append_getLast inside).symm⟩
  exact ⟨above, name, rfl, Folder.view_above tree.root above name there⟩

theorem view_put (bare : Folder.IsBare entry) (room : tree.HasRoom place)
    (free : tree.view place ≠ some none) (other : Place) :
    (tree.put place entry).view other =
      if other = place then some entry.content? else tree.view other := by
  obtain ⟨above, name, rfl, isFolder⟩ := room
  exact Folder.view_put bare tree.root above name isFolder free other

theorem view_erase {content : Text.Utf8.Octets} (isFile : tree.view place = some (some content))
    (other : Place) :
    (tree.erase place).view other = if other = place then none else tree.view other := by
  have inside : place ≠ [] := by
    rintro rfl
    simp [view] at isFile
  have room : tree.HasRoom place := hasRoom_of_view (by simp [isFile]) inside
  obtain ⟨above, name, rfl, -⟩ := room
  exact Folder.view_erase tree.root above name content isFile other

theorem HasRoom.erase {content : Text.Utf8.Octets} (room : tree.HasRoom place)
    (isFile : tree.view other = some (some content)) : (tree.erase other).HasRoom place := by
  obtain ⟨above, name, same, isFolder⟩ := room
  refine ⟨above, name, same, ?_⟩
  rw [view_erase isFile, if_neg ?_]
  · exact isFolder
  · rintro rfl
    rw [isFile] at isFolder
    cases isFolder

/-! ### Walks -/

/-- The place that a walk has led to. -/
def placeOf (steps : List WalkStep) : Place := (steps.map Prod.fst).reverse

/-- The steps of a walk: each starts in a folder and finds what stands under its name. -/
def Walked (tree : Tree) : List WalkStep → Prop
  | [] => True
  | (name, entry) :: done =>
    tree.Walked done ∧ tree.view (placeOf done) = some none ∧
      entry = tree.find? (placeOf done ++ [name])

theorem standing_eq (steps : List WalkStep) (walked : tree.Walked steps) :
    tree.standing steps = tree.find? (placeOf steps) := by
  cases steps with
  | nil => simp [standing, placeOf, find?, Folder.find?]
  | cons step done =>
    obtain ⟨name, entry⟩ := step
    obtain ⟨-, -, rfl⟩ := walked
    simp [standing, placeOf]

theorem walked_cons {done : List WalkStep} {inner : Folder} (name : String)
    (walked : tree.Walked done) (standing : tree.standing done = some (.folder inner)) :
    tree.Walked ((name, inner.lookup name) :: done) := by
  rw [standing_eq done walked] at standing
  refine ⟨walked, by simp [view_eq_find?, standing, Entry.content?], ?_⟩
  have below := Folder.find?_append tree.root (placeOf done) name
  rw [show tree.root.find? (placeOf done) = some (.folder inner) from standing] at below
  exact below.symm

theorem walked_tail {done : List WalkStep} (walked : tree.Walked done) : tree.Walked done.tail := by
  cases done with
  | nil => exact walked
  | cons step done => exact walked.1

theorem walk_walked (names : List String) (done steps : List WalkStep) (walked : tree.Walked done)
    (walk : tree.walk done names = .ok steps) : tree.Walked steps := by
  induction names generalizing done with
  | nil =>
    cases walk
    exact walked
  | cons name rest ih =>
    unfold Tree.walk at walk
    split at walk
    · cases walk
    · cases walk
    next inner standing =>
      split at walk
      · cases walk
      · split at walk
        -- The current folder stays, the parent drops a step, and any other name adds one.
        · exact ih done walked walk
        · split at walk
          · exact ih done.tail (walked_tail walked) walk
          · exact ih _ (walked_cons name walked standing) walk

/-- Where a walk stands in a folder, a walk to the same place of a tree that has this folder does. -/
theorem standing_transfer (folders : ∀ place, tree.view place = some none → after.view place = some none)
    {done done' : List WalkStep} {inner : Folder} (walked : tree.Walked done)
    (walked' : after.Walked done') (same : placeOf done' = placeOf done)
    (standing : tree.standing done = some (.folder inner)) :
    ∃ inner', after.standing done' = some (.folder inner') := by
  have isFolder : tree.view (placeOf done) = some none := by
    rw [view_eq_find?, ← standing_eq done walked, standing]
    rfl
  have kept := folders _ isFolder
  rw [← same, view_eq_find?, ← standing_eq done' walked'] at kept
  obtain ⟨entry, found, bare⟩ := Option.map_eq_some_iff.mp kept
  cases entry with
  | file content => cases bare
  | folder inner' => exact ⟨inner', found⟩

/-- A walk leads to the same place in every tree that has the folders of this one. -/
theorem walk_transfer (folders : ∀ place, tree.view place = some none → after.view place = some none)
    (names : List String) (done done' steps : List WalkStep) (walked : tree.Walked done)
    (walked' : after.Walked done') (same : placeOf done' = placeOf done)
    (walk : tree.walk done names = .ok steps) :
    ∃ steps', after.walk done' names = .ok steps' ∧ placeOf steps' = placeOf steps := by
  induction names generalizing done done' with
  | nil =>
    cases walk
    exact ⟨done', rfl, same⟩
  | cons name rest ih =>
    unfold Tree.walk at walk ⊢
    split at walk
    · cases walk
    · cases walk
    next inner standing =>
      obtain ⟨inner', standing'⟩ := standing_transfer folders walked walked' same standing
      -- Both walks take the same turn: a name, a dot, or two dots.
      simp only [standing']
      split at walk
      · cases walk
      next short =>
        rw [if_neg short]
        split at walk
        next dot =>
          rw [if_pos dot]
          exact ih done done' walked walked' same walk
        next noDot =>
          rw [if_neg noDot]
          split at walk
          next dots =>
            rw [if_pos dots]
            refine ih done.tail done'.tail (walked_tail walked) (walked_tail walked') ?_ walk
            have lengths := congrArg List.dropLast same
            simpa [placeOf, List.dropLast_reverse, List.map_tail] using lengths
          next noDots =>
            rw [if_neg noDots]
            refine ih _ _ (walked_cons name walked standing) (walked_cons name walked' standing') ?_ walk
            simpa [placeOf] using same

/-! ### Paths -/

theorem locate_ok_iff (spot : Spot) :
    tree.locate here path = .ok spot ↔ refusal? path.text = none ∧
      ∃ steps, tree.walk [] ((if path.anchor = .here then here else []) ++ path.names) = .ok steps ∧
        spot = ⟨placeOf steps, tree.standing steps⟩ := by
  unfold locate follow
  cases refusal? path.text with
  | some kind => simp
  | none =>
    cases walk : tree.walk [] ((if path.anchor = .here then here else []) ++ path.names) with
    | error kind => simp [bind, Except.bind, walk]
    | ok steps =>
      simp only [bind, Except.bind, pure, Except.pure, walk, placeOf, Except.ok.injEq, true_and,
        exists_eq_left']
      exact eq_comm

/-- A located spot says what stands at its place, and there is room for it below a folder unless it
is the root. -/
theorem locate_spot {spot : Spot} (located : tree.locate here path = .ok spot) :
    spot.entry = tree.find? spot.place ∧ (spot.place = [] ∨ tree.HasRoom spot.place) := by
  obtain ⟨-, steps, walk, rfl⟩ := (locate_ok_iff spot).mp located
  have walked := walk_walked _ [] steps trivial walk
  refine ⟨standing_eq steps walked, ?_⟩
  cases steps with
  | nil => exact .inl rfl
  | cons step done =>
    obtain ⟨name, entry⟩ := step
    exact .inr ⟨placeOf done, name, by simp [placeOf], walked.2.1⟩

theorem view_spot {spot : Spot} (located : tree.locate here path = .ok spot) :
    tree.view spot.place = spot.entry.map Entry.content? := by
  rw [view_eq_find?, (locate_spot located).1]

theorem hasRoom_spot {spot : Spot} (located : tree.locate here path = .ok spot)
    (noFolder : tree.view spot.place ≠ some none) : tree.HasRoom spot.place := by
  rcases (locate_spot located).2 with root | room
  · rw [root] at noFolder
    simp [view] at noFolder
  · exact room

/-- A path leads to the same place in every tree that has the folders of this one. -/
theorem locate_transfer (folders : ∀ place, tree.view place = some none → after.view place = some none)
    {spot : Spot} (located : tree.locate here path = .ok spot) :
    after.locate here path = .ok ⟨spot.place, after.find? spot.place⟩ := by
  obtain ⟨taken, steps, walk, rfl⟩ := (locate_ok_iff spot).mp located
  obtain ⟨steps', walk', same⟩ := walk_transfer folders _ [] [] steps trivial trivial rfl walk
  refine (locate_ok_iff _).mpr ⟨taken, steps', walk', ?_⟩
  rw [standing_eq steps' (walk_walked _ [] steps' trivial walk'), same]

theorem entryAt_ok_iff (entry : Entry) :
    tree.entryAt here path = .ok entry ↔
      ∃ spot, tree.locate here path = .ok spot ∧ spot.entry = some entry := by
  unfold entryAt
  cases located : tree.locate here path with
  | error kind => simp [bind, Except.bind]
  | ok spot =>
    cases found : spot.entry <;> simp [bind, Except.bind, found]

theorem read_ok_iff (content : Text.Utf8.Octets) :
    tree.read here path = .ok content ↔
      ∃ spot, tree.locate here path = .ok spot ∧ tree.view spot.place = some (some content) := by
  -- Reading is finding a file at the entry of the path.
  have isFile : tree.read here path = .ok content ↔ tree.entryAt here path = .ok (.file content) := by
    unfold read
    cases found : tree.entryAt here path with
    | error kind => simp [bind, Except.bind]
    | ok entry => cases entry <;> simp [bind, Except.bind]
  rw [isFile, entryAt_ok_iff]
  apply exists_congr
  intro spot
  apply and_congr_right
  intro located
  rw [view_spot located]
  constructor
  · intro found
    rw [found]
    rfl
  · intro found
    obtain ⟨entry, here, same⟩ := Option.map_eq_some_iff.mp found
    cases entry with
    | file other =>
      obtain rfl := Option.some.inj same
      exact here
    | folder inner => cases same

theorem isThere_of_read {content : Text.Utf8.Octets} (read : tree.read here path = .ok content) :
    tree.isThere here path = .ok true := by
  unfold Tree.read at read
  unfold isThere
  cases found : tree.entryAt here path with
  | error kind => simp [bind, Except.bind, found] at read
  | ok entry => rfl

end Tree

end KeyBindings
