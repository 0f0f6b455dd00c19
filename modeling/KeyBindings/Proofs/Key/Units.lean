import KeyBindings.Proofs.Key.Decoding
import KeyBindings.Proofs.Key.Limits
import KeyBindings.Proofs.Text.Spelling

/-!
# Decoding any units

The terminal may deliver anything: octets that are no text, characters that break off, and pseudo-keys
in the middle of a character. Whatever it delivers, one call of `decodeKey` reads one to four units
and gives a code, unless one of them is missing. A code above the pseudo-keys comes of the octets of
its character, or of units that are none: only the low eight bits of a unit behind a lead octet count,
so a pseudo-key there can be taken for an octet.
-/
namespace KeyBindings

/-! ### Units without input -/

/-- What the reading at some place of a script delivers. Behind its end there is no input. -/
def unitAt (script : Script) (place : Nat) : Option Int := script[place]?.join

/-- There is no input, which a negative unit says as well. -/
def IsDry (unit : Option Int) : Prop := ∀ value ∈ unit, value < 0

@[simp] theorem unitAt_nil (place : Nat) : unitAt [] place = none := rfl

@[simp] theorem unitAt_cons_zero (unit : Option Int) (script : Script) :
    unitAt (unit :: script) 0 = unit := by
  simp [unitAt]

@[simp] theorem unitAt_cons_succ (unit : Option Int) (script : Script) (place : Nat) :
    unitAt (unit :: script) (place + 1) = unitAt script place := by
  simp [unitAt]

@[simp] theorem isDry_none : IsDry none := by simp [IsDry]

@[simp] theorem isDry_some (unit : Int) : IsDry (some unit) ↔ unit < 0 := by simp [IsDry]

/-- The first reading without input, which ends a key. -/
structure DriesAt (script : Script) (place : Nat) : Prop where
  dry : IsDry (unitAt script place)
  first : ∀ earlier < place, ¬ IsDry (unitAt script earlier)

theorem DriesAt.zero {script : Script} (dry : IsDry (unitAt script 0)) : DriesAt script 0 :=
  ⟨dry, fun earlier before => absurd before (Nat.not_lt_zero earlier)⟩

theorem DriesAt.succ {script : Script} {place : Nat} (dries : DriesAt script place) {unit : Int}
    (positive : 0 ≤ unit) : DriesAt (some unit :: script) (place + 1) := by
  constructor
  · simpa using dries.dry
  · intro earlier before
    cases earlier with
    | zero => simpa using positive
    | succ earlier => simpa using dries.first earlier (by omega)

theorem takeOctets_none {count : Nat} {script rest : Script}
    (taken : takeOctets count script = (none, rest)) :
    ∃ place < count, DriesAt script place ∧ rest = script.drop (place + 1) := by
  induction count generalizing script with
  | zero => cases taken
  | succ count ih =>
    match script with
    | [] =>
      obtain ⟨-, rfl⟩ := Prod.mk.inj taken
      exact ⟨0, by omega, .zero (by simp), rfl⟩
    | none :: more =>
      obtain ⟨-, rfl⟩ := Prod.mk.inj taken
      exact ⟨0, by omega, .zero (by simp), rfl⟩
    | some unit :: more =>
      rw [takeOctets] at taken
      split at taken
      next negative =>
        obtain ⟨-, rfl⟩ := Prod.mk.inj taken
        exact ⟨0, by omega, .zero (by simpa using negative), rfl⟩
      next positive =>
        -- This octet is there, so the gap is among the others.
        obtain ⟨missing, after⟩ := Prod.mk.inj taken
        have later : (takeOctets count more).1 = none := by simpa using missing
        obtain ⟨place, below, dries, rfl⟩ := ih (Prod.ext later after)
        exact ⟨place + 1, by omega, dries.succ (by omega), rfl⟩

variable {limits : Limits}

/-- A script that gives no key dries within the four units that a key may have. -/
theorem decodeKey_none {script rest : Script} (decoded : decodeKey limits script = (none, rest)) :
    ∃ place < 4, DriesAt script place ∧ rest = script.drop (place + 1) := by
  match script with
  | [] =>
    obtain ⟨-, rfl⟩ := Prod.mk.inj decoded
    exact ⟨0, by omega, .zero (by simp), rfl⟩
  | none :: more =>
    obtain ⟨-, rfl⟩ := Prod.mk.inj decoded
    exact ⟨0, by omega, .zero (by simp), rfl⟩
  | some unit :: more =>
    simp only [decodeKey] at decoded
    split at decoded
    next negative =>
      obtain ⟨-, rfl⟩ := Prod.mk.inj decoded
      exact ⟨0, by omega, .zero (by simpa using negative), rfl⟩
    next positive =>
      split at decoded
      · cases decoded
      next several =>
        split at decoded
        · cases decoded
        · cases decoded
        next length _ announced =>
          obtain ⟨missing, after⟩ := Prod.mk.inj decoded
          have later : (takeOctets length more).1 = none := by simpa using missing
          obtain ⟨place, below, dries, rfl⟩ := takeOctets_none (Prod.ext later after)
          -- No character is longer than four octets, and the first of them is there.
          have bound : length ≤ 3 := by
            have wide : limits.keyMin > unit ∧ 0x80 ≤ unit := by simpa using several
            have long := sequenceLength_wide unit wide.2
            omega
          exact ⟨place + 1, by omega, dries.succ (by omega), rfl⟩

/-! ### What one call takes -/

/-- The low eight bits of the first units of a script. -/
def octetsOf (script : Script) (count : Nat) : Text.Utf8.Octets :=
  (script.take count).filterMap (Option.map octetOf)

/-- A lead octet and the units that it announces give a character that is none of ASCII. It is the whole
text of their octets, or the replacement character when that text is refused. -/
theorem character_of_announced {lead : Int} {units : List Int} (wide : 0x80 ≤ lead)
    (announced : Text.Utf8.sequenceLength lead = units.length + 1) :
    let octets := (lead :: units).map octetOf
    let c := (Text.Utf8.char? octets).getD Text.Utf8.replacement
    0x80 ≤ c.toNat ∧ (Text.Utf8.decodeChars octets = .ok [c] ∨
      c = Text.Utf8.replacement ∧ ∃ error, Text.Utf8.decodeChars octets = .error error) := by
  intro octets c
  have long := sequenceLength_wide lead wide
  have value : (octetOf lead : Int) = lead := by
    unfold octetOf
    omega
  have several : 0x80 ≤ octetOf lead := by omega
  have count : Text.Utf8.sequenceLength (octetOf lead) = (units.map octetOf).length + 1 := by
    rw [value, announced, List.length_map]
  -- An announced sequence is one character or not UTF-8 at all.
  rcases Text.Utf8.decodeChars_announced several count with ⟨whole, text, read⟩ | ⟨error, refused, none⟩
  · have same : c = whole := congrArg (Option.getD · Text.Utf8.replacement) read
    have spelled := (Text.Utf8.char?_eq_some_iff _ _).mp read
    rw [← List.append_nil (Text.Utf8.encodeChar whole)] at spelled
    rw [same]
    exact ⟨(Text.Utf8.announced_of_encodeChar several spelled).1, .inl text⟩
  · have same : c = Text.Utf8.replacement := congrArg (Option.getD · Text.Utf8.replacement) none
    rw [same]
    exact ⟨by decide, .inr ⟨rfl, error, refused⟩⟩

/-- How many units of a script one call takes, and what it gives for them. The first unit decides which
form the key has. -/
structure Taken (limits : Limits) (script : Script) (count : Nat) (code : Option Int) : Prop where
  least : 1 ≤ count
  most : count ≤ 4
  /-- There is no code when one of the units is missing, and only then. -/
  none_iff : code = none ↔ ∃ place < count, IsDry (unitAt script place)
  /-- Nothing is read behind a missing unit. -/
  stops : ∀ place, place + 1 < count → ¬ IsDry (unitAt script place)
  single : ∀ unit, unitAt script 0 = some unit → 0 ≤ unit → limits.keyMin ≤ unit ∨ unit < 0x80 →
    count = 1 ∧ code = some unit
  stray : ∀ unit, unitAt script 0 = some unit → 0x80 ≤ unit → unit < limits.keyMin →
    Text.Utf8.sequenceLength unit = 0 →
    count = 1 ∧ code = some (limits.extendedCode Text.Utf8.replacement)
  /-- The octets of several units are the text of one character, or none at all. -/
  several : ∀ unit, unitAt script 0 = some unit → 0x80 ≤ unit → unit < limits.keyMin →
    Text.Utf8.sequenceLength unit ≠ 0 → code ≠ none →
    count = Text.Utf8.sequenceLength unit ∧
      ∃ c : Char, 0x80 ≤ c.toNat ∧ code = some (limits.extendedCode c) ∧
        (Text.Utf8.decodeChars (octetsOf script count) = .ok [c] ∨
          c = Text.Utf8.replacement ∧
            ∃ error, Text.Utf8.decodeChars (octetsOf script count) = .error error)

theorem unitAt_units {units : List Int} {place : Nat} (rest : Script) (below : place < units.length) :
    unitAt (units.map some ++ rest) place = some units[place] := by
  rw [unitAt, List.getElem?_append_left (by simpa using below), List.getElem?_map,
    List.getElem?_eq_getElem below]
  rfl

theorem octetsOf_units (units : List Int) (rest : Script) :
    octetsOf (units.map some ++ rest) units.length = units.map octetOf := by
  rw [octetsOf, List.take_left' (by simp), List.filterMap_map, ← List.filterMap_eq_map]
  rfl

theorem KeyForm.taken {units : List Int} {code : Int} (form : KeyForm limits units code)
    (rest : Script) : Taken limits (units.map some ++ rest) units.length (some code) := by
  have filled : ∀ place < units.length, ¬ IsDry (unitAt (units.map some ++ rest) place) := by
    intro place below
    rw [unitAt_units rest below, isDry_some]
    have positive := form.nonneg units[place] (List.getElem_mem below)
    omega
  have bounds := form.length_bounds
  refine ⟨bounds.1, bounds.2, ?_, fun place before => filled place (by omega), ?_, ?_, ?_⟩
  · constructor
    · intro none
      cases none
    · rintro ⟨place, below, dry⟩
      exact absurd dry (filled place below)
  -- The other fields ask about the first unit, and only one form begins with such a unit.
  · intro unit first positive alone
    cases form with
    | single =>
      obtain rfl := Option.some.inj first
      exact ⟨rfl, rfl⟩
    | stray wide below none =>
      obtain rfl := Option.some.inj first
      omega
    | several wide below announced above =>
      obtain rfl := Option.some.inj first
      omega
  · intro unit first wide below none
    cases form with
    | single positive alone =>
      obtain rfl := Option.some.inj first
      omega
    | stray =>
      exact ⟨rfl, rfl⟩
    | several _ _ announced =>
      obtain rfl := Option.some.inj first
      omega
  · intro unit first wide below lead _
    cases form with
    | single positive alone =>
      obtain rfl := Option.some.inj first
      omega
    | stray _ _ none =>
      obtain rfl := Option.some.inj first
      exact absurd none lead
    | several _ _ announced =>
      obtain rfl := Option.some.inj first
      obtain ⟨above, text⟩ := character_of_announced wide announced
      rw [octetsOf_units]
      exact ⟨announced.symm, _, above, rfl, text⟩

theorem cons_of_unitAt_zero {script : Script} {unit : Int} (first : unitAt script 0 = some unit) :
    ∃ more, script = some unit :: more := by
  cases script with
  | nil => cases first
  | cons other more =>
    rw [unitAt_cons_zero] at first
    exact ⟨more, by rw [first]⟩

theorem DriesAt.taken {script : Script} {place : Nat} (dries : DriesAt script place) (few : place < 4)
    (missing : (decodeKey limits script).1 = none) : Taken limits script (place + 1) none := by
  -- No first unit that is a key alone can be there, since that key would have been given.
  have unfinished : ∀ unit more code, script = some unit :: more → ¬ KeyForm limits [unit] code := by
    intro unit more code same form
    rw [(decodeKey_some_iff script more code).mpr ⟨[unit], form, same⟩] at missing
    cases missing
  refine ⟨by omega, by omega, ?_, fun earlier before => dries.first earlier (by omega), ?_, ?_, ?_⟩
  · exact ⟨fun _ => ⟨place, by omega, dries.dry⟩, fun _ => rfl⟩
  · intro unit first positive alone
    obtain ⟨more, same⟩ := cons_of_unitAt_zero first
    exact absurd (.single positive alone) (unfinished unit more _ same)
  · intro unit first wide below none
    obtain ⟨more, same⟩ := cons_of_unitAt_zero first
    exact absurd (.stray wide below none) (unfinished unit more _ same)
  · intro unit first wide below lead given
    exact absurd rfl given

/-- Every script is decoded: a call takes some of its first units and leaves the others. -/
theorem decodeKey_taken (limits : Limits) (script : Script) :
    ∃ count, Taken limits script count (decodeKey limits script).1 ∧
      (decodeKey limits script).2 = script.drop count := by
  cases decoded : decodeKey limits script with
  | mk code rest =>
    cases code with
    | none =>
      obtain ⟨place, few, dries, same⟩ := decodeKey_none decoded
      exact ⟨place + 1, dries.taken few (congrArg Prod.fst decoded), same⟩
    | some code =>
      obtain ⟨units, form, rfl⟩ := (decodeKey_some_iff script rest code).mp decoded
      exact ⟨units.length, form.taken rest, (List.drop_left' (by simp)).symm⟩

/-! ### Octets -/

/-- An octet at the front gives no code but zero, that of a character of ASCII, or that of a character
above ASCII. -/
theorem Taken.code_of_octet {script : Script} {count : Nat} {code : Int}
    (taken : Taken {} script count (some code)) (octet : ∀ unit ∈ unitAt script 0, unit < 0x100) :
    code = 0 ∨ ({} : Limits).classify? code = some .ordinary ∨
      ({} : Limits).classify? code = some .extended ∧ 0x80 ≤ code - 511 := by
  have extended : ∀ c : Char, 0x80 ≤ c.toNat → code = ({} : Limits).extendedCode c →
      ({} : Limits).classify? code = some .extended ∧ 0x80 ≤ code - 511 := by
    rintro c above rfl
    exact ⟨Limits.classify?_extendedCode (by decide) c, by simp only [Limits.extendedCode]; omega⟩
  have least := taken.least
  have wet : ¬ IsDry (unitAt script 0) := by
    intro dry
    cases taken.none_iff.mpr ⟨0, by omega, dry⟩
  cases first : unitAt script 0 with
  | none => simp [first] at wet
  | some unit =>
    rw [first, isDry_some] at wet
    have small := octet unit first
    -- No octet is as high as a pseudo-key, so only the forms of text are left.
    by_cases wide : unit < 0x80
    · obtain ⟨-, same⟩ := taken.single unit first (by omega) (.inr wide)
      obtain rfl := Option.some.inj same
      by_cases zero : code = 0
      · exact .inl zero
      · refine .inr (.inl ?_)
        rw [Limits.classify?, if_pos (by unfold ordinaryMax; omega)]
    · have below : unit < ({} : Limits).keyMin := by
        change unit < 257
        omega
      by_cases stray : Text.Utf8.sequenceLength unit = 0
      · obtain ⟨-, same⟩ := taken.stray unit first (by omega) below stray
        exact .inr (.inr (extended _ (by decide) (Option.some.inj same)))
      · obtain ⟨-, c, above, same, -⟩ := taken.several unit first (by omega) below stray (by simp)
        exact .inr (.inr (extended c above (Option.some.inj same)))

theorem mem_decodeAll {limits : Limits} {script : Script} {decoded : Option Int × Script}
    (member : decoded ∈ decodeAll limits script) :
    ∃ later, later <:+ script ∧ decodeKey limits later = decoded := by
  induction script using decodeAll.induct limits with
  | case1 =>
    rw [decodeAll, dif_pos rfl] at member
    cases member
  | case2 script filled _ ih =>
    rw [decodeAll, dif_neg filled] at member
    rcases List.mem_cons.mp member with rfl | later
    · exact ⟨script, List.suffix_refl script, rfl⟩
    · -- What the first call leaves is an end of the script, and so are the ends of that.
      obtain ⟨last, suffix, same⟩ := ih later
      obtain ⟨count, -, rest⟩ := decodeKey_taken limits script
      refine ⟨last, suffix.trans ?_, same⟩
      rw [rest]
      exact List.drop_suffix count script

/-- Under all limits and for all that the terminal may deliver, one call takes one to four units and
gives a code, unless one of these units is missing. Octets then never give a pseudo-key or a code that
is none. -/
theorem decodeKey_total :
    (∀ limits script, ∃ count, Taken limits script count (decodeKey limits script).1 ∧
      (decodeKey limits script).2 = script.drop count) ∧
    ∀ script : Script, (∀ unit ∈ script, ∀ octet ∈ unit, octet < 0x100) →
      ∀ decoded ∈ decodeAll {} script, ∀ code ∈ decoded.1,
        code = 0 ∨ ({} : Limits).classify? code = some .ordinary ∨
          ({} : Limits).classify? code = some .extended ∧ 0x80 ≤ code - 511 := by
  refine ⟨decodeKey_taken, ?_⟩
  intro script octets decoded member code given
  obtain ⟨later, suffix, same⟩ := mem_decodeAll member
  obtain ⟨count, taken, -⟩ := decodeKey_taken {} later
  rw [same, given] at taken
  apply taken.code_of_octet
  intro unit first
  obtain ⟨more, rfl⟩ := cons_of_unitAt_zero first
  exact octets (some unit) (suffix.subset List.mem_cons_self) unit rfl

/-- A stray octet, a lead octet before a letter, a surrogate, a value behind the last character, a null
character, a moment without input, and a character that breaks off. -/
theorem decodeKey_total_malformed :
    let script : Script := [some 0x80, some 0xC3, some 0x41, some 0xED, some 0xA0, some 0x80, some 0xF4,
      some 0x90, some 0x80, some 0x80, some 0, none, some 0xE2, some 0x82]
    (∀ unit ∈ script, ∀ octet ∈ unit, octet < 0x100) ∧
      (∃ count, Taken {} script count (some (({} : Limits).extendedCode Text.Utf8.replacement)) ∧
        script.tail = script.drop count) ∧
      ∀ decoded ∈ decodeAll {} script, ∀ code ∈ decoded.1,
        code = 0 ∨ ({} : Limits).classify? code = some .ordinary ∨
          ({} : Limits).classify? code = some .extended ∧ 0x80 ≤ code - 511 := by
  intro script
  have octets : ∀ unit ∈ script, ∀ octet ∈ unit, octet < 0x100 := by decide
  exact ⟨octets, decodeKey_total.1 {} script, decodeKey_total.2 script octets⟩

/-! ### Characters and pseudo-keys -/

/-- The octets of a character as the terminal delivers them. -/
def unitsOf (c : Char) : List Int := (String.utf8EncodeChar c).map fun octet => (octet.toNat : Int)

theorem lt_of_mem_unitsOf {c : Char} {unit : Int} (member : unit ∈ unitsOf c) : unit < 0x100 := by
  obtain ⟨octet, -, rfl⟩ := List.mem_map.mp member
  exact Int.ofNat_lt.mpr octet.toNat_lt

theorem eq_unitsOf {units : List Int} {c : Char} (positive : ∀ unit ∈ units, 0 ≤ unit)
    (small : ∀ unit ∈ units, unit < 0x100)
    (spelled : units.map octetOf = (String.utf8EncodeChar c).map UInt8.toNat) : units = unitsOf c := by
  have same : (units.map octetOf).map (fun octet : Nat => (octet : Int)) = units := by
    rw [List.map_map]
    refine (List.map_congr_left fun unit member => ?_).trans (List.map_id units)
    have low := positive unit member
    have high := small unit member
    simp only [Function.comp_apply, octetOf, id_eq]
    omega
  rw [← same, spelled, List.map_map]
  rfl

/-- A code above the pseudo-keys that is not the replacement character was delivered as it is, or it
is the character that low eight bits spell behind a lead octet. -/
theorem KeyForm.extended {units : List Int} {code : Int} (form : KeyForm {} units code)
    (above : 511 ≤ code) (known : code ≠ 511 + 0xFFFD) :
    units = [code] ∨ ∃ (c : Char) (lead : Int) (others : List Int), units = lead :: others ∧
      0xC2 ≤ lead ∧ lead ≤ 0xF4 ∧ code = 511 + c.toNat ∧
      units.map octetOf = (String.utf8EncodeChar c).map UInt8.toNat := by
  cases form with
  | single positive alone => exact .inl rfl
  | stray wide below none => exact absurd rfl known
  | @several lead others wide below announced nonneg =>
    right
    have long := sequenceLength_wide lead wide
    -- Only octets that are refused give the replacement character.
    cases read : Text.Utf8.char? ((lead :: others).map octetOf) with
    | none =>
      rw [read] at known
      exact absurd rfl known
    | some c =>
      refine ⟨c, lead, others, rfl, by omega, by omega, ?_, ?_⟩
      · simp only [Option.getD_some, Limits.extendedCode]
        omega
      · rw [← Text.Utf8.encodeChar_eq_utf8EncodeChar]
        exact (Text.Utf8.char?_eq_some_iff _ c).mp read

/-- A pseudo-key at the front of a key is its code. A code above the pseudo-keys comes of the octets of
its character exactly when all units of the key are octets. -/
theorem decodeKey_extended {script rest : Script} {code : Int}
    (decoded : decodeKey {} script = (some code, rest)) :
    ∃ units : List Int, script = units.map some ++ rest ∧
      (∀ value ∈ units.head?, 257 ≤ value → value < 511 → units = [value] ∧ code = value) ∧
      (511 ≤ code → code ≠ 511 + 0xFFFD →
        (units = [code] ∨ ∃ (c : Char) (lead : Int) (others : List Int), units = lead :: others ∧
          0xC2 ≤ lead ∧ lead ≤ 0xF4 ∧ code = 511 + c.toNat ∧
          units.map octetOf = (String.utf8EncodeChar c).map UInt8.toNat) ∧
        ((∃ c : Char, code = 511 + c.toNat ∧ units = unitsOf c) ↔ ∀ unit ∈ units, unit < 0x100)) := by
  obtain ⟨units, form, same⟩ := (decodeKey_some_iff script rest code).mp decoded
  refine ⟨units, same, ?_, ?_⟩
  · intro value first low high
    obtain ⟨others, rfl⟩ := List.head?_eq_some_iff.mp first
    obtain ⟨none, alone⟩ := (IsKey.of_form form).eq_of_single (by omega) (.inl low)
    rw [List.map_eq_nil_iff.mp none]
    exact ⟨rfl, alone⟩
  · intro above known
    have source := form.extended above known
    refine ⟨source, ?_, ?_⟩
    · rintro ⟨c, -, rfl⟩ unit member
      exact lt_of_mem_unitsOf member
    · intro small
      rcases source with rfl | ⟨c, lead, others, -, -, -, value, spelled⟩
      · -- A unit that was delivered as it is lies above the pseudo-keys.
        have octet := small code (by simp)
        omega
      · exact ⟨c, value, eq_unitsOf form.nonneg small spelled⟩

/-- The two octets of `é` before a resize, which is the next key. -/
theorem decodeKey_extended_accented :
    decodeKey {} [some 0xC3, some 0xA9, some 410] = (some (511 + 0xE9), [some 410]) ∧
      ∃ units : List Int, [some 0xC3, some 0xA9, some 410] = units.map some ++ [some 410] ∧
        ((∃ c : Char, (511 + 0xE9 : Int) = 511 + c.toNat ∧ units = unitsOf c) ↔
          ∀ unit ∈ units, unit < 0x100) := by
  have decoded : decodeKey {} [some 0xC3, some 0xA9, some 410] = (some (511 + 0xE9), [some 410]) := by
    decide
  obtain ⟨units, same, -, source⟩ := decodeKey_extended decoded
  exact ⟨decoded, units, same, (source (by decide) (by decide)).2⟩

/-- A resize behind a lead octet is taken for the octet of its low eight bits, so the two are read as
`Ú`. -/
theorem decodeKey_extended_resize :
    decodeKey {} [some 0xC3, some 410] = (some (511 + ('Ú'.toNat : Int)), []) ∧
      ([0xC3, 410] : List Int) ≠ unitsOf 'Ú' ∧ ({} : Limits).classify? 410 = some .pseudo := by
  decide

end KeyBindings
