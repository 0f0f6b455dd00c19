import KeyBindings.Host
import KeyBindings.Proofs.Files.Folders

/-!
# Writing a whole file

A text is written to a temporary file that then takes the place of the target. When that succeeds
the target holds the text, and when it fails no file has changed. Either way folders may have been
made on the way to the target.
-/
namespace KeyBindings

namespace Tree

variable {tree made after : Tree} {here : Place} {path source target : Path} {place : Place}
  {kind : FaultKind}

/-! ### Single operations -/

/-- A tree with one file more than another. -/
structure HasFile (made : Tree) (place : Place) (after : Tree) : Prop where
  new : made.view place = none
  isFile : ∃ content, after.view place = some (some content)
  others : ∀ other, other ≠ place → after.view other = made.view other
  troubles : after.troubles = made.troubles

theorem HasFile.folders (more : made.HasFile place after) (other : Place)
    (isFolder : made.view other = some none) : after.view other = some none := by
  rw [more.others other ?_]
  · exact isFolder
  · rintro rfl
    rw [more.new] at isFolder
    cases isFolder

theorem create_view (created : tree.create here path = .ok (place, after)) :
    tree.locate here path = .ok ⟨place, none⟩ ∧ tree.HasFile place after ∧
      after.view place = some (some []) := by
  unfold create at created
  cases located : tree.locate here path with
  | error kind => simp [bind, Except.bind, located] at created
  | ok spot =>
    simp only [bind, Except.bind, located] at created
    split at created
    · cases created
    next free =>
      obtain ⟨-, same⟩ := attempt_ok_iff.mp created
      cases same
      -- The place was free, so the entry put there is all that is new.
      have empty : tree.view spot.place = none := by rw [view_spot located, free]; rfl
      have bare : Folder.IsBare (.file []) := trivial
      have holds := view_put bare (hasRoom_spot located (by simp [empty])) (by simp [empty])
      have isFile := (holds spot.place).trans (if_pos rfl)
      refine ⟨by rw [← free], ⟨empty, ⟨_, isFile⟩, fun other differ => ?_, rfl⟩, isFile⟩
      exact (holds other).trans (if_neg differ)

/-- Writing goes to the end of the open file, and a part of the content may be all that gets there. -/
theorem fill_view (content : Text.Utf8.Octets) {held : Text.Utf8.Octets}
    (isFile : tree.view place = some (some held)) :
    ∃ written, (∀ other, (tree.fill place content).1.view other =
        if other = place then some (some (held ++ written)) else tree.view other) ∧
      (tree.fill place content).1.troubles = tree.troubles ∧
      ((tree.fill place content).2 = .ok () → written = content) ∧
      ∀ fault, (tree.fill place content).2 = .error fault → fault.kind.isSystem = true := by
  have inside : place ≠ [] := by
    rintro rfl
    simp [view] at isFile
  have room : tree.HasRoom place := hasRoom_of_view (by simp [isFile]) inside
  have bare : ∀ content, Folder.IsBare (.file content) := fun _ => trivial
  have put := fun content => view_put (bare content) room (by simp [isFile])
  have found : tree.find? place = some (.file held) := by
    obtain ⟨entry, there, same⟩ := Option.map_eq_some_iff.mp ((view_eq_find? tree place).symm.trans isFile)
    cases entry with
    | file other => rw [there, ← Option.some.inj same]
    | folder inner => cases same
  simp only [fill, found]
  -- A write that fails leaves the octets written before it.
  cases tree.troubles.fill place with
  | none => exact ⟨content, put _, rfl, fun _ => rfl, fun _ failed => by cases failed⟩
  | some trouble =>
    refine ⟨content.take trouble.1, put _, rfl, fun written => (by cases written), fun _ failed => ?_⟩
    cases failed
    rfl

theorem HasFile.fill (more : made.HasFile place after) (content : Text.Utf8.Octets) :
    made.HasFile place (after.fill place content).1 := by
  obtain ⟨held, isFile⟩ := more.isFile
  obtain ⟨written, holds, troubles, -⟩ := fill_view content isFile
  exact ⟨more.new, ⟨_, (holds place).trans (if_pos rfl)⟩,
    fun other differ => ((holds other).trans (if_neg differ)).trans (more.others other differ),
    troubles.trans more.troubles⟩

/-- A file that was moved stands at the end of the target and nowhere else. -/
theorem rename_view (moved : tree.rename here source target = .ok after) :
    ∃ start goal content, tree.locate here source = .ok start ∧ tree.locate here target = .ok goal ∧
      tree.view start.place = some (some content) ∧ tree.view goal.place ≠ some none ∧
      ∀ other, after.view other =
        if other = goal.place then some (some content)
        else if other = start.place then none else tree.view other := by
  unfold rename at moved
  cases from_ : tree.locate here source with
  | error kind => simp [bind, Except.bind, from_] at moved
  | ok start =>
    cases to_ : tree.locate here target with
    | error kind => simp [bind, Except.bind, from_, to_] at moved
    | ok goal =>
      simp only [bind, Except.bind, from_, to_] at moved
      split at moved
      · cases moved
      · split at moved
        · cases moved
        next content isFile noFolder =>
          obtain ⟨-, rfl⟩ := attempt_ok_iff.mp moved
          have held : tree.view start.place = some (some content) := by
            rw [view_spot from_, isFile]
            rfl
          have free : tree.view goal.place ≠ some none := by
            intro isFolder
            rw [view_spot to_] at isFolder
            obtain ⟨entry, there, bare⟩ := Option.map_eq_some_iff.mp isFolder
            cases entry with
            | file other => cases bare
            | folder inner => exact noFolder inner there
          -- The source is erased first; the place of the target still has its folder after that.
          have room := (hasRoom_spot to_ free).erase held
          refine ⟨start, goal, content, rfl, rfl, held, free, fun other => ?_⟩
          have open_ : (tree.erase start.place).view goal.place ≠ some none := by
            rw [view_erase held]
            split
            · simp
            · exact free
          rw [view_put (by trivial) room open_, view_erase held]
          rfl
        · cases moved

theorem folders_rename (moved : tree.rename here source target = .ok after) (place : Place)
    (isFolder : tree.view place = some none) : after.view place = some none := by
  obtain ⟨start, goal, content, -, -, isFile, free, view⟩ := rename_view moved
  rw [view, if_neg ?_, if_neg ?_]
  · exact isFolder
  · rintro rfl
    rw [isFile] at isFolder
    cases isFolder
  · rintro rfl
    exact free isFolder

/-- Where a tree has one file more, taking it away brings the other tree back, unless the system
refuses to. -/
theorem HasFile.unlink (more : made.HasFile place after)
    (located : made.locate here path = .ok ⟨place, none⟩) :
    (∀ restored, after.unlink here path = .ok restored →
      ∀ other, restored.view other = made.view other) ∧
    ∀ kind, after.unlink here path = .error kind → ∃ trouble, made.troubles.unlink place = some trouble := by
  obtain ⟨content, isFile⟩ := more.isFile
  -- The new file is no folder, so the path still leads to its place.
  have again := locate_transfer more.folders located
  have there : after.find? place = some (.file content) := by
    rw [view_eq_find?] at isFile
    obtain ⟨entry, found, is⟩ := Option.map_eq_some_iff.mp isFile
    cases entry with
    | file other =>
      obtain rfl := Option.some.inj is
      exact found
    | folder inner => cases is
  simp only [Tree.unlink, again, there, bind, Except.bind]
  refine ⟨fun restored taken other => ?_, fun kind refused => ?_⟩
  · obtain ⟨-, rfl⟩ := attempt_ok_iff.mp taken
    rw [view_erase isFile]
    -- Erasing the place undoes the creation; elsewhere nothing had changed.
    by_cases same : other = place
    · rw [if_pos same, same, more.new]
    · rw [if_neg same, more.others other same]
  · obtain ⟨trouble, refused, -⟩ := attempt_error_iff.mp refused
    exact ⟨trouble, more.troubles ▸ refused⟩

theorem rename_kind (failed : tree.rename here source target = .error kind) :
    kind.isSystem = true ∨
      kind = .nullCharacter ∧ ('\x00' ∈ source.text.toList ∨ '\x00' ∈ target.text.toList) := by
  unfold rename at failed
  -- Only the two lookups can refuse a null character; all later refusals are the system's.
  cases from_ : tree.locate here source with
  | error other =>
    simp only [bind, Except.bind, from_] at failed
    cases failed
    exact (locate_kind from_).imp_right fun ⟨null, inside⟩ => ⟨null, .inl inside⟩
  | ok start =>
    cases to_ : tree.locate here target with
    | error other =>
      simp only [bind, Except.bind, from_, to_] at failed
      cases failed
      exact (locate_kind to_).imp_right fun ⟨null, inside⟩ => ⟨null, .inr inside⟩
    | ok goal =>
      simp only [bind, Except.bind, from_, to_] at failed
      split at failed
      · cases failed
        exact .inl rfl
      · split at failed
        · cases failed
          exact .inl rfl
        · obtain ⟨trouble, -, rfl⟩ := attempt_error_iff.mp failed
          exact .inl rfl
        · cases failed
          exact .inl rfl

theorem locate_root (tree : Tree) (here : Place) (name : String)
    (taken : refusal? (Path.text ⟨.root, [name]⟩) = none)
    (short : octetCount name ≤ nameLimit) (plain : name ≠ "." ∧ name ≠ "..") :
    tree.locate here ⟨.root, [name]⟩ = .ok ⟨[name], tree.root.lookup name⟩ := by
  have bound : ¬ nameLimit < octetCount name := by omega
  simp only [locate, taken, follow, bind, Except.bind, pure, Except.pure]
  simp [walk, standing, bound, plain]

/-- The file at the end of a path has a content. All else that stood in the tree is kept, and what
is new are folders on the way to the file. -/
def Replaced (tree : Tree) (here : Place) (path : Path) (content : Text.Utf8.Octets) (after : Tree) :
    Prop :=
  ∃ goal, after.locate here path = .ok goal ∧ after.view goal.place = some (some content) ∧
    ∀ place, place ≠ goal.place → tree.KeptAt here path.parent after place

/-- At the end of a path a new file has stayed, which the system did not let be taken away. All else is
kept but for new folders on the way. -/
def KeptBut (tree : Tree) (here : Place) (folder left : Path) (after : Tree) : Prop :=
  ∃ goal, after.locate here left = .ok goal ∧ tree.view goal.place = none ∧
    (∃ content, after.view goal.place = some (some content)) ∧
    (∃ trouble, tree.troubles.unlink goal.place = some trouble) ∧
      ∀ place, place ≠ goal.place → tree.KeptAt here folder after place

theorem KeptBut.not_kept {folder left : Path} (but : tree.KeptBut here folder left after) :
    ¬ tree.Kept here folder after := by
  intro kept
  obtain ⟨goal, -, new, ⟨content, isFile⟩, -⟩ := but
  rcases kept goal.place with same | ⟨-, made, -⟩
  · rw [isFile, new] at same
    cases same
  · rw [isFile] at made
    cases made

end Tree

/-! ### A whole file -/

namespace Host

variable {host after : Host} {path : Path} {text : String} {fault : FileFault}

/-- What can come of writing a whole file: which tree there is afterwards, which temporary file has
stayed, and the result. -/
inductive WritesWhole (host : Host) (path : Path) (text : String) :
    Tree → Option Path → Except FileFault Unit → Prop
  | noFolder {made : Tree} {fault : FileFault}
      (folders : host.tree.makeFolders host.calls.folders host.here path.parent = (made, .error fault)) :
      WritesWhole host path text made none (.error fault)
  | noFile {made : Tree} {kind : FaultKind} (shown : String)
      (folders : host.tree.makeFolders host.calls.folders host.here path.parent = (made, .ok ()))
      (create : made.create host.here (host.temporaryPath path) = .error kind) :
      WritesWhole host path text made none (.error ⟨kind, shown, none⟩)
  | replaced {made opened after : Tree} {place : Place}
      (folders : host.tree.makeFolders host.calls.folders host.here path.parent = (made, .ok ()))
      (create : made.create host.here (host.temporaryPath path) = .ok (place, opened))
      (moved : host.fillAndMove opened place path text = (after, .ok ())) :
      WritesWhole host path text after none (.ok ())
  /-- The temporary file cannot be filled or moved, and is taken away. -/
  | givenUp {made opened held after : Tree} {place : Place} {fault : FileFault}
      (folders : host.tree.makeFolders host.calls.folders host.here path.parent = (made, .ok ()))
      (create : made.create host.here (host.temporaryPath path) = .ok (place, opened))
      (moved : host.fillAndMove opened place path text = (held, .error fault))
      (unlink : held.unlink host.here (host.temporaryPath path) = .ok after) :
      WritesWhole host path text after none (.error fault)
  | left {made opened held : Tree} {place : Place} {fault : FileFault} {kind : FaultKind}
      (folders : host.tree.makeFolders host.calls.folders host.here path.parent = (made, .ok ()))
      (create : made.create host.here (host.temporaryPath path) = .ok (place, opened))
      (moved : host.fillAndMove opened place path text = (held, .error fault))
      (unlink : held.unlink host.here (host.temporaryPath path) = .error kind) :
      WritesWhole host path text held (some (host.temporaryPath path)) (.error fault)

theorem writesWhole (host : Host) (path : Path) (text : String) :
    let written := host.writeWhole path text
    written.host = { host with tree := written.host.tree } ∧
      WritesWhole host path text written.host.tree written.left written.result := by
  intro written
  have same : written = host.writeWhole path text := rfl
  unfold writeWhole makeFolders at same
  rw [same]
  -- What follows the folders depends only on what they leave unchanged in the host.
  rcases folders : host.tree.makeFolders host.calls.folders host.here path.parent with ⟨made, result⟩
  cases result with
  | error fault => exact ⟨rfl, .noFolder folders⟩
  | ok =>
    dsimp only
    split
    next create => exact ⟨rfl, .noFile _ folders create⟩
    next place opened create =>
      split
      next moved => exact ⟨rfl, .replaced folders create moved⟩
      next moved =>
        split
        next unlink => exact ⟨rfl, .givenUp folders create moved unlink⟩
        next unlink => exact ⟨rfl, .left folders create moved unlink⟩

/-- The temporary file is moved with the whole text in it, or it stays with some of the text. -/
theorem fillAndMove_cases (host : Host) (path : Path) (text : String) {made opened : Tree} {place : Place}
    (more : made.HasFile place opened) (empty : opened.view place = some (some [])) :
    (∃ filled, made.HasFile place filled ∧ filled.view place = some (some (Text.Utf8.encode text)) ∧
        filled.rename host.here (host.temporaryPath path) path =
          .ok (host.fillAndMove opened place path text).1 ∧
        (host.fillAndMove opened place path text).2 = .ok ()) ∨
      made.HasFile place (host.fillAndMove opened place path text).1 ∧
        ∃ fault, (host.fillAndMove opened place path text).2 = .error fault ∧
          (fault.kind.isSystem = true ∨ fault.kind = .nullCharacter ∧
            ('\x00' ∈ (host.temporaryPath path).text.toList ∨ '\x00' ∈ path.text.toList)) := by
  have filled := more.fill (Text.Utf8.encode text)
  obtain ⟨written, holds, -, whole, refused⟩ := Tree.fill_view (Text.Utf8.encode text) empty
  unfold fillAndMove
  cases result : opened.fill place (Text.Utf8.encode text) with
  | mk after outcome =>
    rw [result] at filled holds whole refused
    -- After a failed write the file stays as far as it was written; else the move decides.
    cases outcome with
    | error fault => exact .inr ⟨filled, fault, rfl, .inl (refused fault rfl)⟩
    | ok =>
      have isText := (holds place).trans (if_pos rfl)
      rw [whole rfl, List.nil_append] at isText
      dsimp only at filled isText ⊢
      cases moved : after.rename host.here (host.temporaryPath path) path with
      | ok tree => exact .inl ⟨after, filled, isText, moved, rfl⟩
      | error kind => exact .inr ⟨filled, _, rfl, Tree.rename_kind moved⟩

theorem writeWhole_ok (written : (host.writeWhole path text).result = .ok ()) :
    host.writeWhole path text = ⟨(host.writeWhole path text).host, none, .ok ()⟩ := by
  obtain ⟨-, writes⟩ := host.writesWhole path text
  generalize host.writeWhole path text = whole at written writes ⊢
  obtain ⟨after, left, result⟩ := whole
  obtain rfl : result = .ok () := written
  cases writes with
  | replaced => rfl

/-- A file that was written holds the text, and apart from new folders nothing else changed. -/
theorem writeWhole_replaced (written : (host.writeWhole path text).result = .ok ()) :
    host.tree.Replaced host.here path (Text.Utf8.encode text) (host.writeWhole path text).host.tree := by
  obtain ⟨-, writes⟩ := host.writesWhole path text
  rw [written] at writes
  generalize (host.writeWhole path text).host.tree = after at writes
  generalize (host.writeWhole path text).left = left at writes
  cases writes with
  | @replaced made opened _ place folders create moved =>
    have kept := host.tree.makeFolders_kept host.calls.folders host.here path.parent
    rw [folders] at kept
    obtain ⟨located, more, empty⟩ := Tree.create_view create
    obtain ⟨filled, more, isText, renamed, -⟩ | ⟨-, fault, failed, -⟩ :=
      host.fillAndMove_cases path text more empty
    · rw [moved] at renamed
      obtain ⟨start, goal, content, from_, to_, isFile, -, view⟩ := Tree.rename_view renamed
      -- The temporary file is found again where it was made.
      obtain rfl := Except.ok.inj (from_.symm.trans (Tree.locate_transfer more.folders located))
      obtain rfl : Text.Utf8.encode text = content :=
        Option.some.inj (Option.some.inj (isText.symm.trans isFile))
      have folders := Tree.folders_rename renamed
      refine ⟨_, Tree.locate_transfer folders to_, (view _).trans (if_pos rfl), fun other differ => ?_⟩
      refine (kept other).carry ?_ fun place isFolder => folders place (more.folders place isFolder)
      rw [view, if_neg differ]
      by_cases temporary : other = place
      · rw [if_pos temporary, temporary, more.new]
      · rw [if_neg temporary, more.others other temporary]
    · rw [moved] at failed
      cases failed

theorem read_writeWhole (written : host.writeWhole path text = ⟨after, none, .ok ()⟩) :
    after.here = host.here ∧ after.tree.read host.here path = .ok (Text.Utf8.encode text) := by
  have same := (host.writesWhole path text).1
  obtain ⟨goal, located, holds, -⟩ := writeWhole_replaced (congrArg WholeWrite.result written)
  rw [written] at same located holds
  dsimp only at same located holds
  exact ⟨by rw [same], (Tree.read_ok_iff _).mpr ⟨_, located, holds⟩⟩

/-! ### Small hosts -/

def empty : Host := { tree := {}, here := [], environment := [] }

def keeping (content : Text.Utf8.Octets) : Host :=
  { tree := { root := [("keys", .file content)] }, here := [], environment := [] }

theorem read_keeping (content : Text.Utf8.Octets) :
    (keeping content).tree.read (keeping content).here ⟨.root, ["keys"]⟩ = .ok content := by
  have found := Tree.locate_root (keeping content).tree [] "keys" (by decide) (by decide)
    (by decide)
  exact (Tree.read_ok_iff _).mpr ⟨_, found, rfl⟩

theorem writeWhole_keeping (content : Text.Utf8.Octets) (text : String) :
    (keeping content).writeWhole ⟨.root, ["keys"]⟩ text = ⟨keeping (Text.Utf8.encode text), none, .ok ()⟩ := by
  have target := fun tree => Tree.locate_root tree [] "keys" (by decide) (by decide)
    (by decide)
  have beside := fun tree => Tree.locate_root tree [] ".keys.00000000.tmp" (by decide)
    (by decide) (by decide)
  have temporary : (keeping content).temporaryPath ⟨.root, ["keys"]⟩ = ⟨.root, [".keys.00000000.tmp"]⟩ := rfl
  have parents : (keeping content).makeFolders (Path.parent ⟨.root, ["keys"]⟩) = (keeping content, .ok ()) :=
    rfl
  have here : (keeping content).here = [] := rfl
  simp only [writeWhole, fillAndMove, here, parents, temporary, Tree.create, beside, bind, Except.bind]
  simp [keeping, List.lookup_cons, Tree.attempt, Tree.fill, Tree.find?, Folder.find?, Tree.rename, target,
    beside, Tree.endsInDots, Path.name, bind, Except.bind, Tree.put, Tree.erase, Folder.put, Folder.erase,
    Folder.set]

/-- A host without space, on which nothing can be taken away, after three octets of a text were written
to a temporary file. -/
def stuckWith (text : String) : Host :=
  { tree :=
      { root := [(".keys.00000000.tmp", .file ((Text.Utf8.encode text).take 3))]
        troubles := { fill := fun _ => some (3, .full), unlink := fun _ => some .denied } },
    here := [], environment := [] }

/-- The same host before. -/
def stuck : Host := { stuckWith "" with tree := { (stuckWith "").tree with root := [] } }

theorem writeWhole_stuck (text : String) :
    stuck.writeWhole ⟨.root, ["keys"]⟩ text =
      ⟨stuckWith text, some ⟨.root, [".keys.00000000.tmp"]⟩, .error ⟨.refused .full, "", none⟩⟩ := by
  have beside := fun tree => Tree.locate_root tree [] ".keys.00000000.tmp" (by decide)
    (by decide) (by decide)
  have temporary : stuck.temporaryPath ⟨.root, ["keys"]⟩ = ⟨.root, [".keys.00000000.tmp"]⟩ := rfl
  have parents : stuck.makeFolders (Path.parent ⟨.root, ["keys"]⟩) = (stuck, .ok ()) := rfl
  have here : stuck.here = [] := rfl
  simp only [writeWhole, fillAndMove, here, parents, temporary, Tree.create, Tree.unlink, beside, bind,
    Except.bind]
  simp [stuck, stuckWith, Tree.attempt, Tree.fill, Tree.find?, Folder.find?, Tree.put,
    Folder.put, Folder.set]

end Host

end KeyBindings
