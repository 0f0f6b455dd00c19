import KeyBindings.Key.Decoding

/-!
# The units of a key

Decoding takes some units off the front of a script and looks at nothing behind them. So a key
is the same key whatever is typed after it, and a script that was decoded key by key is cut into
the units of its keys.
-/
namespace KeyBindings

/-! ### Octets that continue a character -/

def octetOf (unit : Int) : Nat := (unit % 256).toNat

theorem takeOctets_units (units : List Int) (script : Script) (positive : ∀ unit ∈ units, 0 ≤ unit) :
    takeOctets units.length (units.map some ++ script) = (some (units.map octetOf), script) := by
  induction units with
  | nil => rfl
  | cons unit rest ih =>
    have first : ¬ unit < 0 := Int.not_lt.mpr (positive unit List.mem_cons_self)
    have tail := ih fun other member => positive other (List.mem_cons_of_mem _ member)
    simp only [List.length_cons, List.map_cons, List.cons_append, takeOctets, if_neg first, tail]
    rfl

/-- Octets that were taken come from as many units, none of them negative. -/
theorem takeOctets_some (count : Nat) (script rest : Script) (octets : Text.Utf8.Octets)
    (taken : takeOctets count script = (some octets, rest)) :
    ∃ units : List Int, units.length = count ∧ (∀ unit ∈ units, 0 ≤ unit) ∧
      octets = units.map octetOf ∧ script = units.map some ++ rest := by
  induction count generalizing script octets with
  | zero =>
    obtain ⟨same, rfl⟩ := Prod.mk.inj taken
    exact ⟨[], rfl, by simp, (Option.some.inj same).symm, rfl⟩
  | succ count ih =>
    match script with
    | [] => cases taken
    | none :: more => cases taken
    | some unit :: more =>
      simp only [takeOctets] at taken
      split at taken
      · cases taken
      next positive =>
        obtain ⟨first, after⟩ := Prod.mk.inj taken
        obtain ⟨others, found, rfl⟩ := Option.map_eq_some_iff.mp first
        -- The other octets come from the units behind the first one.
        obtain ⟨units, length, above, rfl, rfl⟩ := ih more others (Prod.ext found after)
        refine ⟨unit :: units, by rw [List.length_cons, length], ?_, rfl, rfl⟩
        intro other member
        rcases List.mem_cons.mp member with rfl | later
        · omega
        · exact above other later

/-! ### Keys -/

/-- Some units are a key when they decode to its code before every script. -/
structure IsKey (limits : Limits) (units : Script) (code : Int) : Prop where
  nonempty : units ≠ []
  decoded : ∀ script, decodeKey limits (units ++ script) = (some code, script)

variable {limits : Limits}

/-- A pseudo-key and a one-octet character are keys of one unit, which is their code. -/
theorem decodeKey_single (unit : Int) (script : Script) (positive : 0 ≤ unit)
    (single : limits.keyMin ≤ unit ∨ unit < 0x80) :
    decodeKey limits (some unit :: script) = (some unit, script) := by
  simp [decodeKey, Int.not_lt.mpr positive, single]

theorem IsKey.of_single (unit : Int) (positive : 0 ≤ unit)
    (single : limits.keyMin ≤ unit ∨ unit < 0x80) : IsKey limits [some unit] unit :=
  ⟨by simp, fun script => decodeKey_single unit script positive single⟩

/-- The forms of a key: its units, and its code. -/
inductive KeyForm (limits : Limits) : List Int → Int → Prop where
  /-- A pseudo-key or a character of one octet. -/
  | single {unit : Int} : 0 ≤ unit → limits.keyMin ≤ unit ∨ unit < 0x80 → KeyForm limits [unit] unit
  /-- An octet with which no character starts. -/
  | stray {unit : Int} : 0x80 ≤ unit → unit < limits.keyMin → Text.Utf8.sequenceLength unit = 0 →
    KeyForm limits [unit] (limits.extendedCode Text.Utf8.replacement)
  /-- A lead octet with as many units as it announces. -/
  | several {lead : Int} {units : List Int} : 0x80 ≤ lead → lead < limits.keyMin →
    Text.Utf8.sequenceLength lead = units.length + 1 → (∀ unit ∈ units, 0 ≤ unit) →
    KeyForm limits (lead :: units) (limits.extendedCode
      ((Text.Utf8.char? ((lead :: units).map octetOf)).getD Text.Utf8.replacement))

theorem sequenceLength_wide (lead : Int) (wide : 0x80 ≤ lead) :
    Text.Utf8.sequenceLength lead = 0 ∨ 2 ≤ Text.Utf8.sequenceLength lead ∧
      Text.Utf8.sequenceLength lead ≤ 4 ∧ 0xC2 ≤ lead ∧ lead ≤ 0xF4 := by
  unfold Text.Utf8.sequenceLength
  repeat' split
  all_goals omega

theorem KeyForm.length_bounds {units : List Int} {code : Int} (form : KeyForm limits units code) :
    1 ≤ units.length ∧ units.length ≤ 4 := by
  cases form with
  | single positive alone => simp
  | stray wide below none => simp
  | @several lead units wide below announced above =>
    have long := sequenceLength_wide lead wide
    simp only [List.length_cons]
    omega

theorem KeyForm.nonneg {units : List Int} {code : Int} (form : KeyForm limits units code) :
    ∀ unit ∈ units, 0 ≤ unit := by
  cases form with
  | single positive alone => simpa using positive
  | stray wide below none =>
    intro unit member
    obtain rfl := List.mem_singleton.mp member
    omega
  | several wide below announced above =>
    intro unit member
    rcases List.mem_cons.mp member with rfl | later
    · omega
    · exact above unit later

/-- A script gives a key exactly when it starts with units that have a form, and then that is the
code of the key. -/
theorem decodeKey_some_iff (script rest : Script) (code : Int) :
    decodeKey limits script = (some code, rest) ↔
      ∃ units, KeyForm limits units code ∧ script = units.map some ++ rest := by
  constructor
  · intro decoded
    match script with
    | [] => cases decoded
    | none :: more => cases decoded
    | some unit :: more =>
      simp only [decodeKey] at decoded
      split at decoded
      · cases decoded
      next positive =>
        split at decoded
        next alone =>
          obtain ⟨same, rfl⟩ := Prod.mk.inj decoded
          obtain rfl := Option.some.inj same
          exact ⟨[unit], .single (by omega) (by simpa using alone), rfl⟩
        next several =>
          have wide : 0x80 ≤ unit ∧ unit < limits.keyMin := by
            simp only [Bool.or_eq_true, decide_eq_true_eq] at several
            omega
          -- The length that the first octet announces decides how many units follow it.
          split at decoded
          next none =>
            obtain ⟨same, rfl⟩ := Prod.mk.inj decoded
            obtain rfl := Option.some.inj same
            exact ⟨[unit], .stray wide.1 wide.2 none, rfl⟩
          next short =>
            have long := sequenceLength_wide unit wide.1
            omega
          next length _ announced =>
            obtain ⟨first, after⟩ := Prod.mk.inj decoded
            obtain ⟨octets, taken, same⟩ := Option.map_eq_some_iff.mp first
            obtain ⟨units, rfl, above, rfl, rfl⟩ :=
              takeOctets_some length more rest octets (Prod.ext taken after)
            have lead : unit.toNat = octetOf unit := by
              have long := sequenceLength_wide unit wide.1
              unfold octetOf
              omega
            rw [lead] at same
            exact ⟨unit :: units, same ▸ .several wide.1 wide.2 announced above, rfl⟩
  · rintro ⟨units, form, rfl⟩
    cases form with
    | single positive alone => exact decodeKey_single _ rest positive alone
    | @stray unit wide below none =>
      have positive : ¬ unit < 0 := by omega
      have alone : ¬ (limits.keyMin ≤ unit ∨ unit < 0x80) := by omega
      simp [decodeKey, positive, alone, none]
    | @several lead units wide below announced above =>
      have positive : ¬ lead < 0 := by omega
      have alone : ¬ (limits.keyMin ≤ lead ∨ lead < 0x80) := by omega
      have long := sequenceLength_wide lead wide
      have value : octetOf lead = lead.toNat := by
        unfold octetOf
        omega
      -- The script goes on with as many units as are taken, and none of them is negative.
      obtain ⟨more, count⟩ : ∃ more, units.length = more + 1 := ⟨units.length - 1, by omega⟩
      have taken := takeOctets_units units rest above
      rw [count] at announced taken
      simp [decodeKey, positive, alone, announced, taken, value]

theorem IsKey.of_form {units : List Int} {code : Int} (form : KeyForm limits units code) :
    IsKey limits (units.map some) code := by
  constructor
  · cases form <;> simp
  · intro script
    exact (decodeKey_some_iff _ script code).mpr ⟨units, form, rfl⟩

theorem decodeKey_some (script rest : Script) (code : Int)
    (decoded : decodeKey limits script = (some code, rest)) :
    ∃ units, script = units ++ rest ∧ IsKey limits units code := by
  obtain ⟨units, form, same⟩ := (decodeKey_some_iff script rest code).mp decoded
  exact ⟨units.map some, same, .of_form form⟩

/-- The first unit of a key decides alone when it is a pseudo-key or a one-octet character. -/
theorem IsKey.eq_of_single {unit code : Int} {units : Script}
    (key : IsKey limits (some unit :: units) code) (positive : 0 ≤ unit)
    (single : limits.keyMin ≤ unit ∨ unit < 0x80) : units = [] ∧ code = unit := by
  have decoded := key.decoded []
  rw [List.cons_append, decodeKey_single unit _ positive single, List.append_nil] at decoded
  obtain ⟨same, rest⟩ := Prod.mk.inj decoded
  exact ⟨rest, (Option.some.inj same).symm⟩

/-! ### Scripts of keys -/

/-- A script starts with some keys, each given by its units and its code, and goes on with a
rest. -/
structure Cut (limits : Limits) (script : Script) (keys : List (Script × Int)) (rest : Script) :
    Prop where
  units : script = keys.flatMap Prod.fst ++ rest
  key : ∀ key ∈ keys, IsKey limits key.1 key.2

theorem Cut.append {script middle rest : Script} {keys more : List (Script × Int)}
    (first : Cut limits script keys middle) (second : Cut limits middle more rest) :
    Cut limits script (keys ++ more) rest := by
  refine ⟨?_, fun key member => ?_⟩
  · rw [first.units, second.units, List.flatMap_append, List.append_assoc]
  · rcases List.mem_append.mp member with before | after
    · exact first.key key before
    · exact second.key key after

theorem Cut.of_decodeKey (script rest : Script) (code : Int)
    (decoded : decodeKey limits script = (some code, rest)) :
    ∃ units, Cut limits script [(units, code)] rest := by
  obtain ⟨units, same, key⟩ := decodeKey_some script rest code decoded
  exact ⟨units, by simpa using same, by simpa using key⟩

end KeyBindings
