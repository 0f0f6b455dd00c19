import KeyBindings.Proofs.Binding.Defaults
import KeyBindings.Proofs.Binding.Ownership
import KeyBindings.Proofs.Key.NamedCodes

/-!
# Where filling in default keys stops

Filling in walks the default keys of the missing actions and stops at the first one that has an
owner: it was bound before, or the walk itself has bound it. The keys before that place stay bound.
-/
namespace KeyBindings.Table

variable {table after : Table}

/-! ### Places in the walk -/

/-- A default key of a missing action, with what the walk asks for before it and after it. -/
structure FillPlace (table : Table) where
  earlier : List Action
  action : Action
  later : List Action
  given : List String
  name : String
  behind : List String
  actions_eq : table.missingActions = earlier ++ action :: later
  names_eq : action.defaultKeys = given ++ name :: behind

namespace FillPlace

variable (place : table.FillPlace)

def code : Int := table.keyboard.codeOf place.name

def before : List Int := place.given.map table.keyboard.codeOf

/-- What the walk asks for before this place. -/
def passed : List (Int × Action) :=
  table.keyboard.asked place.earlier ++ place.before.map (·, place.action)

/-- When the walk comes to this place, an action has the key: from before the walk or from the walk. -/
def HasOwner (owner : Action) : Prop :=
  table.lookup place.code = some owner ∨ (place.code, owner) ∈ place.passed

/-- No place that the walk comes to before this one has a key with an owner. -/
def IsFirst : Prop :=
  ∀ other : table.FillPlace, other.passed.length < place.passed.length → ∀ owner, ¬ other.HasOwner owner

variable {place}

theorem passed_prefix (place : table.FillPlace) :
    place.passed ++ [(place.code, place.action)] <+: table.keyboard.asked table.missingActions := by
  rw [place.actions_eq]
  simp only [Keyboard.asked, Keyboard.defaultsOf, List.flatMap_append, List.flatMap_cons, place.names_eq,
    passed, before, code, List.map_append, List.map_cons, List.append_assoc, List.cons_append,
    List.prefix_append_right_inj, List.cons_prefix_cons, List.nil_prefix, and_self]

theorem prefix_of_earlier {other : table.FillPlace} (earlier : other.passed.length < place.passed.length) :
    other.passed ++ [(other.code, other.action)] <+: place.passed := by
  -- Both begin what the walk asks for, so the shorter one begins the other.
  apply List.prefix_of_prefix_length_le other.passed_prefix
  · exact (List.prefix_append _ _).trans place.passed_prefix
  · rw [List.length_append, List.length_singleton]
    exact earlier

theorem not_hasOwner {bound : List (Int × Action)} (positive : 1 ≤ table.limits.keyMin)
    (binds : table.Binds bound after)
    (within : place.passed ++ [(place.code, place.action)] <+: bound) (owner : Action) :
    ¬ place.HasOwner owner := by
  obtain ⟨rest, rfl⟩ := within
  obtain ⟨distinct, unowned⟩ := binds.free positive
  rintro (had | taken)
  · have free := unowned place.code (by simp)
    rw [had] at free
    cases free
  -- The code would stand twice among the keys that were bound.
  · simp only [List.append_assoc, List.map_append, List.nodup_append] at distinct
    exact distinct.2.2 place.code (List.mem_map_of_mem taken) place.code (by simp) rfl

theorem isFirst_of_binds (positive : 1 ≤ table.limits.keyMin) (binds : table.Binds place.passed after) :
    place.IsFirst := by
  intro other earlier
  exact not_hasOwner positive binds (prefix_of_earlier earlier)

/-- Up to a place, the actions before it get all their default keys and its own action some. -/
theorem codesFor_passed (place : table.FillPlace) (action : Action) :
    codesFor action place.passed =
      if action ∈ place.earlier then table.keyboard.defaultsOf action
      else if action = place.action then place.before else [] := by
  have once := place.actions_eq ▸ table.missingActions_nodup
  obtain ⟨distinct, -, apart⟩ := List.nodup_append.mp once
  rw [passed, codesFor_append, codesFor_asked _ _ distinct, codesFor_one]
  by_cases before : action ∈ place.earlier
  · have other : place.action ≠ action := (apart action before _ List.mem_cons_self).symm
    simp [before, other]
  · simp [before, eq_comm]

/-- What the missing actions are bound to when the walk stops at this place. -/
structure Leaves (place : table.FillPlace) (after : Table) : Prop where
  earlier : ∀ action ∈ place.earlier,
    after.binding action = ⟨.configured, table.keyboard.defaultsOf action⟩
  here : after.binding place.action =
    if place.before = [] then ⟨.missing, []⟩ else ⟨.configured, place.before⟩
  later : ∀ action ∈ place.later, after.binding action = ⟨.missing, []⟩

theorem leaves_of_binds (consistent : table.Consistent) (binds : table.Binds place.passed after) :
    place.Leaves after := by
  have once := place.actions_eq ▸ table.missingActions_nodup
  obtain ⟨-, tail, apart⟩ := List.nodup_append.mp once
  have ownLater : place.action ∉ place.later := (List.nodup_cons.mp tail).1
  -- A missing action had no keys, so it has now what the walk gave it.
  have gets : ∀ action ∈ place.earlier ++ place.action :: place.later,
      after.binding action = if codesFor action place.passed = [] then ⟨.missing, []⟩
        else ⟨.configured, codesFor action place.passed⟩ := by
    intro action member
    have empty : table.binding action = ⟨.missing, []⟩ :=
      consistent.binding_missing (mem_missingActions.mp (place.actions_eq ▸ member))
    rw [binds.binding, codes, empty, List.nil_append]
  constructor
  case earlier =>
    intro action before
    rw [gets action (List.mem_append_left _ before), codesFor_passed, if_pos before,
      if_neg (defaultsOf_ne_nil _ _)]
  case here =>
    have absent : place.action ∉ place.earlier := fun before => apart _ before _ List.mem_cons_self rfl
    rw [gets place.action (by simp), codesFor_passed, if_neg absent, if_pos rfl]
  case later =>
    intro action behind
    have absent : action ∉ place.earlier :=
      fun before => apart _ before _ (List.mem_cons_of_mem _ behind) rfl
    have other : action ≠ place.action := fun same => ownLater (same ▸ behind)
    rw [gets action (by simp [behind]), codesFor_passed, if_neg absent, if_neg other, if_pos rfl]

end FillPlace

/-! ### The walk stops at the first owned key -/

theorem place_of_stopped {terminal : Terminal} {fault : CorruptDefaults}
    (positive : 1 ≤ table.limits.keyMin)
    (made : Keyboard.make table.limits terminal = .ok table.keyboard)
    (stopped : table.fillMissing = (after, .error fault)) :
    ∃ (place : table.FillPlace) (owner : Action), place.HasOwner owner ∧
      table.Binds place.passed after ∧
      fault = ⟨place.action, .conflict place.code owner (table.keyboard.nameOf? place.code)⟩ := by
  obtain ⟨earlier, later, given, name, behind, actions_eq, names_eq, binds, refused⟩ :=
    fillMissing_stopped stopped
  let place : table.FillPlace :=
    ⟨earlier, fault.action, later, given, name, behind, actions_eq, names_eq⟩
  -- Default keys are key codes, so the key was refused for its owner.
  have valid : after.limits.isValid place.code = true := by
    rw [limits, binds.keyboard]
    exact Keyboard.isValid_defaultKey made (names_eq ▸ List.mem_append_right given List.mem_cons_self)
  obtain ⟨owner, owned, conflict⟩ := assign_refused valid refused
  rw [binds.keyboard] at conflict
  exact ⟨place, owner, (binds.lookup positive place.code owner).mp owned, binds,
    congrArg (CorruptDefaults.mk fault.action) conflict⟩

/-- Filling in fails exactly when some default key of a missing action has an owner when the walk
comes to it. Without a fault, every missing action gets its default keys in their order, and the
result is their number. The fault names the first default key that has an owner, with its action and
the owner. What the walk has bound by then stays bound. Actions that were not missing stay as they
are in both cases. -/
theorem fillMissing_walk (table : Table) (terminal : Terminal) (reachable : table.IsReachable)
    (positive : 1 ≤ table.limits.keyMin)
    (made : Keyboard.make table.limits terminal = .ok table.keyboard) :
    let filling := table.fillMissing
    ((∃ fault, filling.2 = .error fault) ↔
      ∃ (place : table.FillPlace) (owner : Action), place.HasOwner owner) ∧
    (∀ filled, filling.2 = .ok filled → filled = table.missingActions.length ∧
      ∀ action ∈ table.missingActions,
        filling.1.binding action = ⟨.configured, table.keyboard.defaultsOf action⟩) ∧
    (∀ fault, filling.2 = .error fault → ∃ (place : table.FillPlace) (owner : Action),
      place.IsFirst ∧ place.HasOwner owner ∧
      fault = ⟨place.action, .conflict place.code owner (table.keyboard.nameOf? place.code)⟩ ∧
      fault.message = "Default key bindings for " ++ Text.quoted place.action.label ++ " (#" ++
        toString place.action.ordinal ++ ") are corrupt: " ++ fault.reason.message ∧
      place.Leaves filling.1) ∧
    ∀ action, action ∉ table.missingActions → filling.1.binding action = table.binding action := by
  intro filling
  have consistent := reachable.consistent positive
  have kept : ∀ action, action ∉ table.missingActions →
      filling.1.binding action = table.binding action := by
    intro action present
    exact binding_fillMissing (Bool.eq_false_iff.mpr fun missing => present (mem_missingActions.mpr missing))
  cases outcome : filling with
  | mk after result =>
    rw [outcome] at kept
    cases result with
    | ok filled =>
      obtain ⟨binds, count⟩ := fillMissing_done outcome
      refine ⟨⟨fun failed => ?_, fun clash => ?_⟩, fun total same => ?_, fun fault failed => ?_, kept⟩
      · obtain ⟨fault, impossible⟩ := failed
        cases impossible
      -- A walk to the end got past every place, so no place had an owner.
      · obtain ⟨place, owner, owned⟩ := clash
        exact absurd owned (place.not_hasOwner positive binds place.passed_prefix owner)
      · obtain rfl := Except.ok.inj same
        refine ⟨count, fun action member => ?_⟩
        have missing := mem_missingActions.mp member
        rw [binding_filled outcome, if_pos missing, codes, consistent.binding_missing missing,
          List.nil_append]
      · cases failed
    | error fault =>
      obtain ⟨place, owner, owned, binds, same⟩ := place_of_stopped positive made outcome
      refine ⟨⟨fun _ => ⟨place, owner, owned⟩, fun _ => ⟨fault, rfl⟩⟩, fun total ended => ?_,
        fun other failed => ?_, kept⟩
      · cases ended
      · obtain rfl := Except.error.inj failed
        have message : fault.message = "Default key bindings for " ++
            Text.quoted place.action.label ++ " (#" ++ toString place.action.ordinal ++
            ") are corrupt: " ++ fault.reason.message := by
          rw [same]
          rfl
        exact ⟨place, owner, FillPlace.isFirst_of_binds positive binds, owned, same, message,
          FillPlace.leaves_of_binds consistent binds⟩

/-- Help owns `S`, so the walk stops at the second key of save. -/
theorem fillMissing_walk_taken :
    let table := (fresh Keyboard.usual).editAll [.assign 83 .help]
    table.IsReachable ∧ 1 ≤ table.limits.keyMin ∧
      Keyboard.make table.limits Terminal.usual = .ok table.keyboard ∧
      (∃ fault, table.fillMissing.2 = .error fault) ∧
      table.fillMissing.1.binding .help = ⟨.configured, [83]⟩ := by
  intro table
  have reachable : table.IsReachable := ⟨[.assign 83 .help], rfl⟩
  have positive : 1 ≤ table.limits.keyMin := by decide
  have made : Keyboard.make table.limits Terminal.usual = .ok table.keyboard := Keyboard.make_usual
  let place : table.FillPlace :=
    { earlier := [.cancel, .select, .credits, .quit], action := .save,
      later := table.missingActions.drop 5, given := ["s"], name := "S", behind := ["^S"],
      actions_eq := by decide +kernel, names_eq := by decide }
  have owned : place.HasOwner .help := .inl (by decide +kernel)
  obtain ⟨stops, -, -, kept⟩ := fillMissing_walk table Terminal.usual reachable positive made
  refine ⟨reachable, positive, made, stops.mpr ⟨place, .help, owned⟩, ?_⟩
  rw [kept .help (by decide +kernel)]
  decide +kernel

end KeyBindings.Table
