import KeyBindings.Binding.Calls
import KeyBindings.Proofs.Binding.ReverseMap
import KeyBindings.Proofs.Key.Limits
import Mathlib.Data.Set.Card

/-!
# The calls that went before decide every answer

Behind the two stores stands one partial map from key codes to actions, which the calls build up one by
one. Every answer of the reverse map is the answer of that map. The entries come in an order that the
calls decide as well: ordinary and pseudo codes ascend, and the extended codes stand in the order in
which they were first set since they were last taken out.
-/
namespace KeyBindings.ReverseMap

/-! ### One partial map -/

/-- What a call does to a partial map from key codes to actions. -/
def Call.change (limits : Limits) (owners : Int → Option Action) : Call → Int → Option Action
  | .set code action => if limits.isValid code then Function.update owners code (some action) else owners
  | .discard code => Function.update owners code none
  | .clear => fun _ => none
  | _ => owners

/-- The partial map that some calls build up from nothing. -/
def ownersAfter (limits : Limits) (calls : List Call) : Int → Option Action :=
  calls.foldl (Call.change limits) fun _ => none

/-- Does a call take a code out of the map? -/
def Call.Drops (code : Int) : Call → Prop
  | .discard other => other = code
  | .clear => True
  | _ => False

/-- At this place in a run of calls the code was set when nobody had it, and it was not taken out
since. -/
structure EnteredAt (limits : Limits) (calls : List Call) (code : Int) (place : Nat) : Prop where
  isSet : ∃ action, calls[place]? = some (.set code action)
  wasFree : ownersAfter limits (calls.take place) code = none
  kept : ∀ later call, place < later → calls[later]? = some call → ¬ call.Drops code

/-- The first code came before the second. -/
def EnteredBefore (limits : Limits) (calls : List Call) (first second : Int) : Prop :=
  ∃ earlier later, EnteredAt limits calls first earlier ∧ EnteredAt limits calls second later ∧
    earlier < later

/-- The entries after some calls: each once, the ordinary and pseudo codes ascending, and behind them
the extended codes in the order in which they entered. -/
structure Lists (limits : Limits) (calls : List Call) (dense extended : List (Int × Action)) : Prop where
  mem_iff : ∀ code action,
    (code, action) ∈ dense ++ extended ↔ ownersAfter limits calls code = some action
  distinct : (codesOf (dense ++ extended)).Nodup
  dense_range : ∀ code ∈ codesOf dense,
    limits.classify? code = some .ordinary ∨ limits.classify? code = some .pseudo
  dense_ascending : (codesOf dense).Pairwise (· < ·)
  extended_range : ∀ code ∈ codesOf extended, limits.classify? code = some .extended
  extended_entered : ∀ code ∈ codesOf extended, ∃! place, EnteredAt limits calls code place
  extended_order : (codesOf extended).Pairwise (EnteredBefore limits calls)

/-- The answer that the partial map owes to a call after some others. -/
def Answers (limits : Limits) (calls : List Call) (answer : Answer) : Call → Prop
  | .set code _ => answer = if limits.isValid code then .done else .refused (.invalid code)
  | .get code => answer = .owner (ownersAfter limits calls code)
  | .discard _ | .clear => answer = .done
  | .contains code => answer = .held (ownersAfter limits calls code).isSome
  | .size => answer = .number {code | ownersAfter limits calls code ≠ none}.ncard
  | .items => ∃ dense extended, answer = .entries (dense ++ extended) ∧ Lists limits calls dense extended

/-- Is the number of a call, if it has one, a key code or short enough to be written? -/
def Call.IsNameable (limits : Limits) (call : Call) : Prop :=
  ∀ code, call.code? = some code →
    limits.isValid code = true ∨ code.natAbs < 10 ^ Text.digitLimit

variable {limits : Limits} {calls : List Call} {code : Int} {place : Nat}

theorem ownersAfter_concat (calls : List Call) (call : Call) :
    ownersAfter limits (calls ++ [call]) = call.change limits (ownersAfter limits calls) := by
  rw [ownersAfter, List.foldl_append, List.foldl_cons, List.foldl_nil]
  rfl

theorem ownersAfter_invalid (invalid : limits.isValid code = false) (calls : List Call) :
    ownersAfter limits calls code = none := by
  -- The latest call decides, so the induction takes the calls from the back.
  induction calls using List.reverseRecOn with
  | nil => rfl
  | append_singleton calls call ih =>
    rw [ownersAfter_concat]
    cases call with
    | set other action =>
      simp only [Call.change]
      split
      next valid =>
        -- Only a valid code is entered, and the code asked for is not one.
        have differ : code ≠ other := fun same => by simp [← same, invalid] at valid
        rw [Function.update_of_ne differ, ih]
      · exact ih
    | discard other =>
      by_cases same : code = other <;> simp [Call.change, Function.update_apply, ih]
    | clear => rfl
    | _ => exact ih

/-! ### Numbers that cannot be named -/

/-- The guard of a call stops the calls with a number that cannot be named, and no others. -/
theorem guard_iff (limits : Limits) (call : Call) :
    call.code?.any limits.isUnwritable = true ↔ ¬ call.IsNameable limits := by
  simp only [Call.IsNameable, Option.any_eq_true, limits.isUnwritable_iff, not_forall, not_or,
    Bool.not_eq_true, exists_prop]

theorem call_of_not_nameable (map : ReverseMap) {call : Call} (long : ¬ call.IsNameable limits) :
    map.call limits call = (map, .refused .unwritable) :=
  if_pos ((guard_iff limits call).mpr long)

theorem call_of_nameable (map : ReverseMap) {call : Call} (nameable : call.IsNameable limits) :
    map.call limits call = map.respond limits call :=
  if_neg fun guarded => (guard_iff limits call).mp guarded nameable

/-- Without the guard a call with a number that is no key code changes nothing either. -/
theorem respond_fst_invalid (map : ReverseMap) (invalid : limits.isValid code = false) {call : Call}
    (asked : call.code? = some code) : (map.respond limits call).1 = map := by
  obtain ⟨refused, kept, -⟩ := call_invalid invalid map
  cases call with
  | set other action =>
    cases asked
    simp only [respond, refused]
  | discard other =>
    cases asked
    exact kept
  | clear => cases asked
  | _ => rfl

theorem call_fst (map : ReverseMap) (call : Call) :
    (map.call limits call).1 = (map.respond limits call).1 := by
  by_cases nameable : call.IsNameable limits
  · rw [call_of_nameable map nameable]
  · rw [call_of_not_nameable map nameable]
    simp only [Call.IsNameable, not_forall, not_or, Bool.not_eq_true] at nameable
    obtain ⟨code, asked, invalid, -⟩ := nameable
    exact (respond_fst_invalid map invalid asked).symm

/-! ### Where a code entered -/

namespace EnteredAt

theorem place_lt (entered : EnteredAt limits calls code place) : place < calls.length := by
  obtain ⟨action, set⟩ := entered.isSet
  exact (List.getElem?_eq_some_iff.mp set).1

theorem concat (entered : EnteredAt limits calls code place) {call : Call} (keeps : ¬ call.Drops code) :
    EnteredAt limits (calls ++ [call]) code place := by
  have inside := entered.place_lt
  constructor
  case isSet =>
    rw [List.getElem?_append_left inside]
    exact entered.isSet
  case wasFree =>
    rw [List.take_append_of_le_length inside.le]
    exact entered.wasFree
  case kept =>
    intro later other behind found
    -- The call behind is an old one or the last one.
    rcases Nat.lt_or_ge later calls.length with old | new
    · rw [List.getElem?_append_left old] at found
      exact entered.kept later other behind found
    · rw [List.getElem?_append_right new, List.getElem?_singleton] at found
      split at found
      · cases found
        exact keeps
      · cases found

theorem last (free : ownersAfter limits calls code = none) (action : Action) :
    EnteredAt limits (calls ++ [.set code action]) code calls.length := by
  refine ⟨⟨action, by simp⟩, by simpa using free, ?_⟩
  -- No call stands behind the last one.
  intro later call behind found
  have outside : (calls ++ [Call.set code action]).length ≤ later := by
    rw [List.length_append, List.length_singleton]
    exact behind
  rw [List.getElem?_eq_none outside] at found
  cases found

/-- What holds of a run held when the run was shorter. -/
theorem initial {more : List Call} (entered : EnteredAt limits (calls ++ more) code place)
    (inside : place < calls.length) : EnteredAt limits calls code place := by
  constructor
  case isSet =>
    rw [← List.getElem?_append_left inside]
    exact entered.isSet
  case wasFree =>
    rw [← List.take_append_of_le_length inside.le]
    exact entered.wasFree
  case kept =>
    intro later call behind found
    have old : later < calls.length := (List.getElem?_eq_some_iff.mp found).1
    apply entered.kept later call behind
    rwa [List.getElem?_append_left old]

/-- A code that entered has an owner until it is taken out. -/
theorem owned (valid : limits.isValid code = true) (entered : EnteredAt limits calls code place) :
    ownersAfter limits calls code ≠ none := by
  induction calls using List.reverseRecOn with
  | nil => exact absurd entered.place_lt (Nat.not_lt_zero place)
  | append_singleton calls call ih =>
    rw [ownersAfter_concat]
    rcases Nat.lt_or_ge place calls.length with old | new
    · -- It entered before, and the last call leaves it its owner or gives it another one.
      have held := ih (entered.initial old)
      have keeps : ¬ call.Drops code := entered.kept calls.length call old (by simp)
      cases call with
      | set other action =>
        simp only [Call.change]
        split
        · by_cases same : code = other <;> simp [same, held]
        · exact held
      | discard other =>
        have differ : code ≠ other := fun same => keeps same.symm
        simpa [Call.change, differ] using held
      | clear => exact absurd trivial keeps
      | _ => exact held
    · -- The code entered with the last call.
      obtain ⟨action, set⟩ := entered.isSet
      obtain rfl : place = calls.length := by
        have inside := entered.place_lt
        rw [List.length_append, List.length_singleton] at inside
        omega
      obtain rfl : call = .set code action := by simpa using set
      simp [Call.change, valid]

theorem unique (valid : limits.isValid code = true) {other : Nat}
    (entered : EnteredAt limits calls code place) (again : EnteredAt limits calls code other) :
    place = other := by
  -- Between two entries the code would have an owner all the time.
  have notBefore : ∀ earlier later, EnteredAt limits calls code earlier →
      EnteredAt limits calls code later → ¬ earlier < later := by
    intro earlier later first second before
    rw [← List.take_append_drop later calls] at first
    have inside : earlier < (calls.take later).length := by
      rw [List.length_take]
      exact lt_min before (before.trans second.place_lt)
    exact (first.initial inside).owned valid second.wasFree
  have forward := notBefore place other entered again
  have backward := notBefore other place again entered
  omega

end EnteredAt

/-! ### The two stores behind the partial map -/

/-- The map answers like the partial map that the calls build up, and its extended codes stand in the
order in which they entered. -/
structure Mirrors (limits : Limits) (calls : List Call) (map : ReverseMap) : Prop where
  get?_eq : ∀ code, map.get? limits code = ownersAfter limits calls code
  ordered : map.Ordered limits
  entered : ∀ code ∈ codesOf map.extended, ∃ place, EnteredAt limits calls code place
  order : (codesOf map.extended).Pairwise (EnteredBefore limits calls)

theorem extended_set? (positive : 1 ≤ limits.keyMin) {map after : ReverseMap} {action : Action}
    (set : map.set? limits code action = some after) :
    codesOf after.extended = codesOf map.extended ∨
      code ∉ codesOf map.extended ∧ limits.classify? code = some .extended ∧
        codesOf after.extended = codesOf map.extended ++ [code] := by
  rw [set?_eq positive] at set
  split at set
  · cases set
  next extended =>
    cases set
    rw [codesOf_insertLast]
    -- An owned code keeps its place in the dictionary; a new one goes to the end.
    by_cases known : code ∈ codesOf map.extended
    · exact .inl (if_pos known)
    · exact .inr ⟨known, extended, if_neg known⟩
  · cases set
    exact .inl rfl

theorem extended_discard (positive : 1 ≤ limits.keyMin) {map : ReverseMap} (ordered : map.Ordered limits)
    (code : Int) :
    codesOf (map.discard limits code).extended = (codesOf map.extended).filter (· ≠ code) := by
  by_cases extended : limits.classify? code = some .extended
  · rw [discard_eq positive, extended]
    exact codesOf_without code map.extended
  · -- Any other code stands in the other store, if anywhere.
    have same : (map.discard limits code).extended = map.extended := by
      rw [discard_eq positive]
      split
      · rfl
      next found => exact absurd found extended
      · rfl
    rw [same, eq_comm, List.filter_eq_self]
    intro other member
    have differ : other ≠ code := by
      rintro rfl
      exact extended (ordered.extended_range other member)
    exact decide_eq_true differ

namespace Mirrors

variable {map : ReverseMap}

theorem nothing (limits : Limits) : Mirrors limits [] {} :=
  ⟨fun code => get?_empty code, ordered_empty limits, by simp [codesOf], by simp [codesOf]⟩

/-- Codes that a call does not take out stay in the order in which they entered. -/
theorem order_concat (mirrors : Mirrors limits calls map) (call : Call) {codes : List Int}
    (fewer : codes.Sublist (codesOf map.extended)) (keeps : ∀ code ∈ codes, ¬ call.Drops code) :
    (∀ code ∈ codes, ∃ place, EnteredAt limits (calls ++ [call]) code place) ∧
      codes.Pairwise (EnteredBefore limits (calls ++ [call])) := by
  -- No place changes when a call is added behind the others.
  constructor
  · intro code member
    obtain ⟨place, entered⟩ := mirrors.entered code (fewer.subset member)
    exact ⟨place, entered.concat (keeps code member)⟩
  · refine (mirrors.order.sublist fewer).imp_of_mem fun {first second} inFirst inSecond before => ?_
    obtain ⟨earlier, later, one, other, less⟩ := before
    exact ⟨earlier, later, one.concat (keeps first inFirst), other.concat (keeps second inSecond), less⟩

theorem unchanged (mirrors : Mirrors limits calls map) {call : Call} (keeps : ∀ code, ¬ call.Drops code)
    (same : call.change limits (ownersAfter limits calls) = ownersAfter limits calls) :
    Mirrors limits (calls ++ [call]) map := by
  obtain ⟨entered, order⟩ := mirrors.order_concat call (List.Sublist.refl _) fun code _ => keeps code
  refine ⟨?_, mirrors.ordered, entered, order⟩
  intro code
  rw [ownersAfter_concat, same]
  exact mirrors.get?_eq code

theorem set (positive : 1 ≤ limits.keyMin) (mirrors : Mirrors limits calls map) {after : ReverseMap}
    {action : Action} (set : map.set? limits code action = some after) :
    Mirrors limits (calls ++ [.set code action]) after := by
  have valid : limits.isValid code = true := by
    rw [← set?_isSome map code action, set]
    rfl
  obtain ⟨entered, order⟩ := mirrors.order_concat (.set code action) (List.Sublist.refl _) fun _ _ => id
  have answers : ∀ other,
      after.get? limits other = ownersAfter limits (calls ++ [.set code action]) other := by
    intro other
    rw [get?_set? positive map after code other action set, mirrors.get?_eq, ownersAfter_concat]
    simp only [Call.change, valid, if_true, Function.update_apply]
  rcases extended_set? positive set with same | ⟨absent, extended, longer⟩
  · exact ⟨answers, mirrors.ordered.set? positive set, same ▸ entered, same ▸ order⟩
  · -- The code is new among the extended ones, so it had no owner, and it comes behind all others.
    have free : ownersAfter limits calls code = none := by
      rw [← mirrors.get?_eq, ReverseMap.get?_eq positive, extended]
      exact Option.eq_none_iff_forall_ne_some.mpr fun owner found =>
        absent (List.mem_map_of_mem (f := Prod.fst) (Entries.mem_of_lookup found))
    have last := EnteredAt.last free action
    constructor
    case get?_eq => exact answers
    case ordered => exact mirrors.ordered.set? positive set
    case entered =>
      rw [longer]
      intro other member
      rcases List.mem_append.mp member with old | new
      · exact entered other old
      · obtain rfl := List.mem_singleton.mp new
        exact ⟨calls.length, last⟩
    case order =>
      rw [longer, List.pairwise_append]
      refine ⟨order, List.pairwise_singleton _ _, ?_⟩
      intro other old new member
      obtain rfl := List.mem_singleton.mp member
      obtain ⟨place, earlier⟩ := mirrors.entered other old
      exact ⟨place, calls.length, earlier.concat id, last, earlier.place_lt⟩

theorem discard (positive : 1 ≤ limits.keyMin) (mirrors : Mirrors limits calls map) (code : Int) :
    Mirrors limits (calls ++ [.discard code]) (map.discard limits code) := by
  have codes := extended_discard positive mirrors.ordered code
  have fewer : ((codesOf map.extended).filter (· ≠ code)).Sublist (codesOf map.extended) :=
    List.filter_sublist
  obtain ⟨entered, order⟩ := mirrors.order_concat (.discard code) fewer fun other member same => by
    simp [same.symm] at member
  refine ⟨?_, mirrors.ordered.discard positive code, codes ▸ entered, codes ▸ order⟩
  intro other
  rw [get?_discard positive, mirrors.get?_eq, ownersAfter_concat]
  simp only [Call.change, Function.update_apply]

theorem clear (calls : List Call) : Mirrors limits (calls ++ [.clear]) {} := by
  refine ⟨?_, ordered_empty limits, by simp [codesOf], by simp [codesOf]⟩
  intro code
  rw [ownersAfter_concat, get?_empty]
  rfl

/-- Every call keeps the map and the partial map together. -/
theorem call (positive : 1 ≤ limits.keyMin) (mirrors : Mirrors limits calls map) (call : Call) :
    Mirrors limits (calls ++ [call]) (map.call limits call).1 := by
  rw [call_fst]
  cases call with
  | set code action =>
    simp only [respond]
    cases stored : map.set? limits code action with
    | some after => exact mirrors.set positive stored
    | none =>
      -- The number was refused, so it has no place in the partial map either.
      have invalid : limits.isValid code = false := by
        rw [← set?_isSome map code action, stored]
        rfl
      exact mirrors.unchanged (fun _ => id) (by simp [Call.change, invalid])
  | discard code => exact mirrors.discard positive code
  | clear => exact .clear calls
  | _ => exact mirrors.unchanged (fun _ => id) rfl

theorem callAll (positive : 1 ≤ limits.keyMin) (calls : List Call) :
    Mirrors limits calls (({} : ReverseMap).callAll limits calls) := by
  induction calls using List.reverseRecOn with
  | nil => exact .nothing limits
  | append_singleton calls call ih =>
    rw [ReverseMap.callAll, List.foldl_append]
    exact ih.call positive call

theorem mem_items (positive : 1 ≤ limits.keyMin) (mirrors : Mirrors limits calls map) (code : Int)
    (action : Action) : (code, action) ∈ map.items ↔ ownersAfter limits calls code = some action := by
  rw [mirrors.ordered.mem_items_iff positive, mirrors.get?_eq]

theorem size_eq (positive : 1 ≤ limits.keyMin) (mirrors : Mirrors limits calls map) :
    map.size = {code | ownersAfter limits calls code ≠ none}.ncard := by
  have owned : {code | ownersAfter limits calls code ≠ none} = ↑(codesOf map.items).toFinset := by
    ext code
    simp only [codesOf, Set.mem_ofPred_eq, Option.ne_none_iff_exists', List.coe_toFinset, List.mem_map,
      Prod.exists, exists_and_right, exists_eq_right, mirrors.mem_items positive]
  rw [owned, Set.ncard_coe_finset, List.toFinset_card_of_nodup mirrors.ordered.items_distinct, codesOf,
    List.length_map, size]

theorem lists (positive : 1 ≤ limits.keyMin) (mirrors : Mirrors limits calls map) :
    Lists limits calls map.dense map.extended where
  mem_iff := mirrors.mem_items positive
  distinct := mirrors.ordered.items_distinct
  dense_range code member := by
    obtain ⟨range, found, dense⟩ := mirrors.ordered.dense_range code member
    cases range with
    | ordinary => exact .inl found
    | pseudo => exact .inr found
    | extended => exact absurd rfl dense
  dense_ascending := mirrors.ordered.dense_ascending
  extended_range := mirrors.ordered.extended_range
  extended_entered code member := by
    -- An extended code stands in the dictionary since one place of the calls, and no other.
    obtain ⟨place, entered⟩ := mirrors.entered code member
    have valid : limits.isValid code = true := by
      rw [Limits.isValid, mirrors.ordered.extended_range code member]
      rfl
    exact ⟨place, entered, fun other again => again.unique valid entered⟩
  extended_order := mirrors.order

/-- The map answers every call as the partial map owes it, but for a number that cannot be named. -/
theorem answers (positive : 1 ≤ limits.keyMin) (mirrors : Mirrors limits calls map) {call : Call}
    (nameable : call.IsNameable limits) : Answers limits calls (map.call limits call).2 call := by
  rw [call_of_nameable map nameable]
  cases call with
  | set code action =>
    simp only [Answers, respond]
    rw [← set?_isSome map code action]
    cases map.set? limits code action <;> rfl
  | get code => exact congrArg Answer.owner (mirrors.get?_eq code)
  | discard code => rfl
  | clear => rfl
  | contains code => exact congrArg (Answer.held ∘ Option.isSome) (mirrors.get?_eq code)
  | size => exact congrArg Answer.number (mirrors.size_eq positive)
  | items => exact ⟨map.dense, map.extended, rfl, mirrors.lists positive⟩

end Mirrors

/-! ### All answers -/

theorem answers_getElem? (map : ReverseMap) (calls : List Call) {call : Call}
    (found : calls[place]? = some call) :
    (map.answers limits calls)[place]? =
      some ((map.callAll limits (calls.take place)).call limits call).2 := by
  -- The first call leads to the map that the others are asked of.
  induction calls generalizing map place with
  | nil => cases found
  | cons first rest ih =>
    cases place with
    | zero =>
      obtain rfl : first = call := Option.some.inj found
      rfl
    | succ place => exact ih (map.call limits first).1 found

/-- No answer that a call is owed is that its number cannot be written. -/
theorem not_answers_unwritable {call : Call} (asked : call.code? = some code) :
    ¬ Answers limits calls (.refused .unwritable) call := by
  cases call with
  | set other action =>
    simp only [Answers]
    split <;> simp
  | clear | size | items => cases asked
  | _ => simp [Answers]

/-- Every answer of a run of calls is the answer of the one partial map that the calls before it have
built up, unless the call is about a number that is no key code and too long to be written: that number
is refused by every call, and the map stays as it is. Other numbers that are no key codes are refused
where they are to be set; they never have an owner, and a call with one leaves the map as it is. -/
theorem answers_owed (limits : Limits) (positive : 1 ≤ limits.keyMin) (calls : List Call) :
    (∀ place call, calls[place]? = some call → ∃ answer,
      (({} : ReverseMap).answers limits calls)[place]? = some answer ∧
        (Answers limits (calls.take place) answer call ↔ call.IsNameable limits) ∧
        (¬ call.IsNameable limits → answer = .refused .unwritable)) ∧
    ∀ code, limits.isValid code = false → ownersAfter limits calls code = none ∧
      let map := ({} : ReverseMap).callAll limits calls
      (∀ call : Call, call.code? = some code → (map.call limits call).1 = map) ∧
      (code.natAbs < 10 ^ Text.digitLimit →
        (∀ action, map.call limits (.set code action) = (map, .refused (.invalid code))) ∧
          map.call limits (.discard code) = (map, .done) ∧
          map.call limits (.get code) = (map, .owner none) ∧
          map.call limits (.contains code) = (map, .held false)) := by
  constructor
  · intro place call found
    -- Before the call the map mirrors the calls up to it, by induction over the prefix.
    have mirrors := Mirrors.callAll positive (calls.take place)
    refine ⟨_, answers_getElem? {} calls found, ⟨?_, mirrors.answers positive⟩, ?_⟩
    · intro owed
      -- A number too long to be written leaves no answer but the refusal, which nothing owes.
      by_contra long
      rw [call_of_not_nameable _ long] at owed
      simp only [Call.IsNameable, not_forall] at long
      obtain ⟨code, asked, -⟩ := long
      exact not_answers_unwritable asked owed
    · intro long
      rw [call_of_not_nameable _ long]
  -- An invalid code never has an owner; only its message can go wrong.
  · intro code invalid
    obtain ⟨refused, kept, nobody⟩ := call_invalid invalid (({} : ReverseMap).callAll limits calls)
    refine ⟨ownersAfter_invalid invalid calls, ?_, ?_⟩
    · intro call asked
      rw [call_fst, respond_fst_invalid _ invalid asked]
    · intro short
      have nameable : ∀ call : Call, call.code? = some code → call.IsNameable limits := by
        intro call asked other again
        rw [asked] at again
        cases again
        exact .inr short
      refine ⟨?_, ?_, ?_, ?_⟩
      · intro action
        rw [call_of_nameable _ (nameable _ rfl), respond, refused action]
      · rw [call_of_nameable _ (nameable _ rfl), respond, kept]
      · rw [call_of_nameable _ (nameable _ rfl), respond, nobody]
      · rw [call_of_nameable _ (nameable _ rfl), respond, contains, nobody, Option.isSome_none]

/-- The ordinary and pseudo codes overlap, zero is refused, one extended code is set again in its place
and one is taken out and comes back behind the other. -/
theorem answers_owed_overlapping :
    let limits : Limits := ⟨100, 300⟩
    let calls : List Call := [.set 600 .quit, .set 290 .help, .set 700 .copy, .set 0 .save, .set 110 .save,
      .set 700 .paste, .discard 600, .set 600 .quit, .items]
    let entries : List (Int × Action) := [(110, .save), (290, .help), (700, .paste), (600, .quit)]
    1 ≤ limits.keyMin ∧ calls[8]? = some .items ∧
      (({} : ReverseMap).answers limits calls)[8]? = some (.entries entries) ∧
      Answers limits (calls.take 8) (.entries entries) .items := by
  intro limits calls entries
  have positive : 1 ≤ limits.keyMin := by decide
  have shown : (({} : ReverseMap).answers limits calls)[8]? = some (.entries entries) := by
    decide +kernel
  have nameable : (Call.items).IsNameable limits := fun code asked => by cases asked
  obtain ⟨answer, given, owed, -⟩ := (answers_owed limits positive calls).1 8 .items rfl
  obtain rfl : Answer.entries entries = answer := Option.some.inj (shown.symm.trans given)
  exact ⟨positive, rfl, shown, owed.mpr nameable⟩

/-- A question for the owner of a number that cannot be written has no answer, though nobody owns it. -/
theorem answers_long {code : Int} (long : 10 ^ Text.digitLimit ≤ code.natAbs) :
    ({} : ReverseMap).answers {} [.get code] = [.refused .unwritable] ∧
      ¬ Answers {} [] (.refused .unwritable) (.get code) := by
  have wide : ∀ digits, 8 ≤ digits → 10 ^ 8 ≤ 10 ^ digits := fun digits enough =>
    Nat.pow_le_pow_right (by omega) enough
  have invalid : ({} : Limits).isValid code = false :=
    Limits.isValid_of_large ((wide _ (by decide)).trans long)
  have unnameable : ¬ Call.IsNameable {} (.get code) := by
    intro nameable
    rcases nameable code rfl with valid | short
    · simp [invalid] at valid
    · exact Nat.not_lt.mpr long short
  refine ⟨?_, not_answers_unwritable rfl⟩
  rw [answers, call_of_not_nameable _ unnameable]
  rfl

/-- One followed by 4300 zeros is such a number. -/
theorem answers_owed_unwritable :
    let code : Int := (10 ^ Text.digitLimit : Nat)
    ({} : ReverseMap).answers {} [.get code] = [.refused .unwritable] ∧
      ¬ Answers {} [] (.refused .unwritable) (.get code) :=
  answers_long (Int.natAbs_natCast _).symm.le

end KeyBindings.ReverseMap
