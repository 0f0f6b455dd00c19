import KeyBindings.Proofs.Files.Path
import KeyBindings.Proofs.Files.Tree

/-!
# Making folders

The folders that a file needs are made from the top down, the lowest one last. Whatever comes of it,
all that stood in the tree is as before, and what is new is a folder on the way. A fault is one of
the file system, unless too many folders are missing; then none of them is made.
-/
namespace KeyBindings.Tree

variable {tree middle after : Tree} {here : Place} {path folder : Path} {place : Place}
  {name : String} {kind : FaultKind}

/-! ### Walks and faults -/

theorem attempt_ok_iff {α : Type} {trouble : Option Trouble} {value outcome : α} :
    attempt trouble value = .ok outcome ↔ trouble = none ∧ value = outcome := by
  cases trouble <;> simp [attempt]

theorem attempt_error_iff {α : Type} {trouble : Option Trouble} {value : α} :
    attempt trouble value = .error kind ↔ ∃ other, trouble = some other ∧ kind = .refused other := by
  cases trouble <;> simp [attempt, eq_comm]

theorem walk_kind {done : List WalkStep} {names : List String}
    (failed : tree.walk done names = .error kind) : kind.isSystem = true := by
  induction names generalizing done with
  | nil => cases failed
  | cons name rest ih =>
    unfold walk at failed
    split at failed
    · cases failed; rfl
    · cases failed; rfl
    · split at failed
      · cases failed; rfl
      · split at failed
        · exact ih failed
        · split at failed <;> exact ih failed

theorem follow_kind {anchor : Anchor} {names : List String}
    (failed : tree.follow here anchor names = .error kind) : kind.isSystem = true := by
  unfold follow at failed
  cases walk : tree.walk [] ((if anchor = .here then here else []) ++ names) with
  | error other =>
    simp only [walk, bind, Except.bind] at failed
    cases failed
    exact walk_kind walk
  | ok steps => simp [walk, bind, Except.bind, pure, Except.pure] at failed

theorem locate_kind (failed : tree.locate here path = .error kind) :
    kind.isSystem = true ∨ kind = .nullCharacter ∧ '\x00' ∈ path.text.toList := by
  unfold locate at failed
  split at failed
  next refused =>
    cases failed
    rcases refusal?_kind refused with null | rfl
    · exact .inr null
    · exact .inl rfl
  next => exact .inl (follow_kind failed)

/-- Making a folder changes the tree at the end of the path only, where nothing was. -/
theorem makeFolder_view (made : tree.makeFolder here path = .ok after) :
    ∃ spot, tree.locate here path = .ok spot ∧ tree.view spot.place = none ∧
      ∀ place, after.view place = if place = spot.place then some none else tree.view place := by
  unfold makeFolder at made
  cases located : tree.locate here path with
  | error kind => simp [bind, Except.bind, located] at made
  | ok spot =>
    simp only [bind, Except.bind, located, makeFolderAt] at made
    split at made
    · cases made
    next free =>
      obtain ⟨-, rfl⟩ := attempt_ok_iff.mp made
      have empty : tree.view spot.place = none := by rw [view_spot located, free]; rfl
      have room := hasRoom_spot located (by simp [empty])
      exact ⟨spot, rfl, empty, fun place => view_put (by rfl) room (by simp [empty]) place⟩

theorem troubles_makeFolder (made : tree.makeFolder here path = .ok after) :
    after.troubles = tree.troubles := by
  unfold makeFolder at made
  cases located : tree.locate here path with
  | error kind => simp [bind, Except.bind, located] at made
  | ok spot =>
    simp only [bind, Except.bind, located, makeFolderAt] at made
    split at made
    · cases made
    · obtain ⟨-, rfl⟩ := attempt_ok_iff.mp made
      rfl

/-- A place that the beginning of a path leads to. -/
def OnTheWay (tree : Tree) (here : Place) (path : Path) (place : Place) : Prop :=
  ∃ names, names <+: path.names ∧
    ∃ spot, tree.locate here ⟨path.anchor, names⟩ = .ok spot ∧ spot.place = place

/-- At a place stands what stood there, or a new folder on the way that a path takes. -/
def KeptAt (tree : Tree) (here : Place) (path : Path) (after : Tree) (place : Place) : Prop :=
  after.view place = tree.view place ∨
    tree.view place = none ∧ after.view place = some none ∧ after.OnTheWay here path place

/-- All that stands in a tree is kept, and new folders are on the way that a path takes. -/
def Kept (tree : Tree) (here : Place) (path : Path) (after : Tree) : Prop :=
  ∀ place, tree.KeptAt here path after place

theorem OnTheWay.transfer (onTheWay : tree.OnTheWay here path place)
    (folders : ∀ place, tree.view place = some none → after.view place = some none) :
    after.OnTheWay here path place := by
  obtain ⟨names, start, spot, located, same⟩ := onTheWay
  exact ⟨names, start, _, locate_transfer folders located, same⟩

/-- What is kept stays so when it is not changed any more. -/
theorem KeptAt.carry (kept : tree.KeptAt here path middle place)
    (same : after.view place = middle.view place)
    (folders : ∀ place, middle.view place = some none → after.view place = some none) :
    tree.KeptAt here path after place := by
  rcases kept with kept | ⟨empty, made, onTheWay⟩
  · exact .inl (same.trans kept)
  · exact .inr ⟨empty, same.trans made, onTheWay.transfer folders⟩

theorem Kept.refl (tree : Tree) (here : Place) (path : Path) : tree.Kept here path tree :=
  fun _ => .inl rfl

theorem Kept.folders (kept : tree.Kept here path after) (place : Place)
    (isFolder : tree.view place = some none) : after.view place = some none := by
  rcases kept place with same | ⟨empty, -⟩
  · exact same.trans isFolder
  · rw [empty] at isFolder
    cases isFolder

theorem Kept.trans (first : tree.Kept here path middle) (second : middle.Kept here path after) :
    tree.Kept here path after := by
  intro place
  rcases second place with same | ⟨empty, made, onTheWay⟩
  · exact (first place).carry same second.folders
  · rcases first place with kept | ⟨-, made, -⟩
    · exact .inr ⟨kept ▸ empty, made, onTheWay⟩
    · rw [made] at empty
      cases empty

/-- What is on the way to a folder is on the way to what is below it. -/
theorem Kept.further {anchor : Anchor} {names more : List String}
    (kept : tree.Kept here ⟨anchor, names⟩ after) (start : names <+: more) :
    tree.Kept here ⟨anchor, more⟩ after := by
  intro place
  refine (kept place).imp_right fun ⟨empty, made, onTheWay⟩ => ⟨empty, made, ?_⟩
  obtain ⟨before, isStart, led⟩ := onTheWay
  exact ⟨before, isStart.trans start, led⟩

theorem makeFolder_kept (made : tree.makeFolder here path = .ok after) :
    tree.Kept here path after := by
  obtain ⟨spot, located, empty, view⟩ := makeFolder_view made
  have folders : ∀ place, tree.view place = some none → after.view place = some none := by
    intro place isFolder
    rw [view]
    split
    · rfl
    · exact isFolder
  intro place
  by_cases same : place = spot.place
  · subst same
    refine .inr ⟨empty, (view _).trans (if_pos rfl), path.names, List.prefix_refl _, ?_⟩
    exact ⟨_, locate_transfer folders located, rfl⟩
  · exact .inl ((view place).trans (if_neg same))

/-! ### All folders of a path -/

/-- What can come of making the folders with some names, given last first: which tree there is
afterwards, and whether the last folder is there. -/
inductive MakesFolders (here : Place) (anchor : Anchor) :
    Tree → Nat → List String → Tree → Except FileFault Unit → Prop
  /-- The start of all paths is there. -/
  | start (tree : Tree) (limit : Nat) : MakesFolders here anchor tree limit [] tree (.ok ())
  | tooDeep (tree : Tree) (last : String) (above : List String) (text : String) :
      MakesFolders here anchor tree 0 (last :: above) tree (.error ⟨.tooDeep, text, none⟩)
  | made {tree after : Tree} {limit : Nat} {last : String} {above : List String}
      (one : tree.makeFolder here ⟨anchor, (last :: above).reverse⟩ = .ok after) :
      MakesFolders here anchor tree (limit + 1) (last :: above) after (.ok ())
  /-- The folder cannot be made, though what is above it is there. That is no fault where it is a
  folder already. -/
  | unmade {tree : Tree} {limit : Nat} {last : String} {above : List String} {kind : FaultKind}
      {result : Except FileFault Unit} (text : String)
      (one : tree.makeFolder here ⟨anchor, (last :: above).reverse⟩ = .error kind)
      (other : kind ≠ .noSuchFile) (is : result = .ok () ∨ result = .error ⟨kind, text, none⟩) :
      MakesFolders here anchor tree (limit + 1) (last :: above) tree result
  | failedAbove {tree after : Tree} {limit : Nat} {last : String} {above : List String}
      {fault : FileFault}
      (one : tree.makeFolder here ⟨anchor, (last :: above).reverse⟩ = .error .noSuchFile)
      (upper : MakesFolders here anchor tree limit above after (.error fault)) :
      MakesFolders here anchor tree (limit + 1) (last :: above) after (.error fault)
  | madeBelow {tree middle after : Tree} {limit : Nat} {last : String} {above : List String}
      (one : tree.makeFolder here ⟨anchor, (last :: above).reverse⟩ = .error .noSuchFile)
      (upper : MakesFolders here anchor tree limit above middle (.ok ()))
      (two : middle.makeFolder here ⟨anchor, (last :: above).reverse⟩ = .ok after) :
      MakesFolders here anchor tree (limit + 1) (last :: above) after (.ok ())
  | unmadeBelow {tree middle : Tree} {limit : Nat} {last : String} {above : List String}
      {kind : FaultKind} {result : Except FileFault Unit} (text : String)
      (one : tree.makeFolder here ⟨anchor, (last :: above).reverse⟩ = .error .noSuchFile)
      (upper : MakesFolders here anchor tree limit above middle (.ok ()))
      (two : middle.makeFolder here ⟨anchor, (last :: above).reverse⟩ = .error kind)
      (is : result = .ok () ∨ result = .error ⟨kind, text, none⟩) :
      MakesFolders here anchor tree (limit + 1) (last :: above) middle result

theorem makesFolders (tree : Tree) (here : Place) (anchor : Anchor) (limit : Nat)
    (names : List String) :
    MakesFolders here anchor tree limit names (tree.makeFoldersAt here anchor limit names).1
      (tree.makeFoldersAt here anchor limit names).2 := by
  -- One case of the relation for every way out of the recursion over the folders above.
  induction names generalizing limit with
  | nil => exact .start tree limit
  | cons last above ih =>
    -- An existing folder settles every refusal the system makes.
    have settled : ∀ (other : Tree) (kind : FaultKind) (path : Path) (text : String),
        ∃ result, (if kind.isSystem && other.isFolder here path then (other, Except.ok ())
            else (other, Except.error (⟨kind, text, none⟩ : FileFault))) = (other, result) ∧
          (result = .ok () ∨ result = .error ⟨kind, text, none⟩) := by
      intro other kind path text
      split
      · exact ⟨_, rfl, .inl rfl⟩
      · exact ⟨_, rfl, .inr rfl⟩
    unfold makeFoldersAt
    dsimp only
    cases limit with
    | zero => exact .tooDeep ..
    | succ limit =>
      rw [if_neg (by omega)]
      split
      next one => exact .made one
      next one =>
        have upper := ih limit
        rw [Nat.add_sub_cancel]
        split
        next failed =>
          rw [failed] at upper
          exact .failedAbove one upper
        next done =>
          rw [done] at upper
          split
          -- With the folders above there, this one is made, still missing, or refused in another way.
          next two => exact .madeBelow one upper two
          next two => exact .unmadeBelow _ one upper two (.inr rfl)
          next _ two =>
            obtain ⟨result, same, is⟩ := settled _ _ _ _
            rw [same]
            exact .unmadeBelow _ one upper two is
      next other one =>
        obtain ⟨result, same, is⟩ := settled _ _ _ _
        rw [same]
        exact .unmade _ one other is

namespace MakesFolders

variable {anchor : Anchor} {limit : Nat} {names : List String} {result : Except FileFault Unit}

/-- Whether it succeeds or fails, making folders keeps all that is there. -/
theorem kept (makes : MakesFolders here anchor tree limit names after result) :
    tree.Kept here ⟨anchor, names.reverse⟩ after := by
  have longer : ∀ (last : String) (above : List String),
      above.reverse <+: (last :: above).reverse := by
    intro last above
    rw [List.reverse_cons]
    exact List.prefix_append ..
  induction makes with
  | start => exact Kept.refl _ _ _
  | tooDeep => exact Kept.refl _ _ _
  | made one => exact makeFolder_kept one
  | unmade => exact Kept.refl _ _ _
  | failedAbove _ _ ih => exact ih.further (longer _ _)
  | madeBelow _ _ two ih => exact (ih.further (longer _ _)).trans (makeFolder_kept two)
  | unmadeBelow _ _ _ _ _ ih => exact ih.further (longer _ _)

theorem troubles (makes : MakesFolders here anchor tree limit names after result) :
    after.troubles = tree.troubles := by
  induction makes with
  | start => rfl
  | tooDeep => rfl
  | made one => exact troubles_makeFolder one
  | unmade => rfl
  | failedAbove _ _ ih => exact ih
  | madeBelow _ _ two ih => exact (troubles_makeFolder two).trans ih
  | unmadeBelow _ _ _ _ _ ih => exact ih

end MakesFolders

/-! ### Too many missing folders -/

theorem makeFolders_kept (tree : Tree) (limit : Nat) (here : Place) (path : Path) :
    tree.Kept here path (tree.makeFolders limit here path).1 := by
  have kept := (makesFolders tree here path.anchor limit path.names.reverse).kept
  rwa [List.reverse_reverse] at kept

end KeyBindings.Tree
