import KeyBindings.Proofs.Key.NamedCodes

/-!
# Which keys are found by their names

A terminal may call its keys whatever it likes, and several keys alike. Under the usual limits a key
is found by its name exactly when this is no former name and no ordinary or pseudo key before it has
the same one. A text always stands for a key with a name, and that name stands for a key that has it,
though it may be another key.
-/
namespace KeyBindings.Keyboard

/-! ### The order of the search -/

theorem scanOrder_ascending : usual.limits.scanOrder.Pairwise (· < ·) := by
  have start : usual.limits.keyMin = 257 := rfl
  rw [Limits.scanOrder, List.pairwise_append]
  refine ⟨?_, ?_, fun first ordinary second pseudo => ?_⟩
  · rw [Limits.ordinaryCodes, List.pairwise_map]
    exact List.pairwise_lt_range.imp fun less => by omega
  · rw [Limits.pseudoCodes, List.pairwise_map]
    exact List.pairwise_lt_range.imp fun less => by omega
  · obtain ⟨n, bound, rfl⟩ := List.mem_map.mp ordinary
    obtain ⟨m, -, rfl⟩ := List.mem_map.mp pseudo
    rw [List.mem_range] at bound
    omega

/-- In ascending order the first code with a property is the least one. -/
theorem find?_eq_some_iff_least {codes : List Int} (ascending : codes.Pairwise (· < ·))
    {holds : Int → Bool} {code : Int} :
    codes.find? holds = some code ↔
      code ∈ codes ∧ holds code = true ∧ ∀ other ∈ codes, other < code → holds other = false := by
  rw [List.find?_eq_some_iff_append]
  constructor
  · rintro ⟨held, before, after, rfl, missed⟩
    obtain ⟨-, tail, -⟩ := List.pairwise_append.mp ascending
    refine ⟨List.mem_append_right _ List.mem_cons_self, held, fun other member less => ?_⟩
    -- Only what stands in front is less.
    rcases List.mem_append.mp member with front | back
    · simpa using missed other front
    · rcases List.mem_cons.mp back with rfl | later
      · omega
      · have greater := List.rel_of_pairwise_cons tail later
        omega
  · rintro ⟨member, held, least⟩
    obtain ⟨before, after, rfl⟩ := List.append_of_mem member
    obtain ⟨-, -, apart⟩ := List.pairwise_append.mp ascending
    refine ⟨held, before, after, rfl, fun other front => ?_⟩
    have missed := least other (List.mem_append_left _ front) (apart other front code List.mem_cons_self)
    simpa using missed

/-! ### Keys of any terminal -/

section

variable {keyboard : Keyboard} {name : String} {n : Nat} (usualLimits : keyboard.limits = {})
include usualLimits

theorem mem_search_iff (code : Int) :
    code ∈ keyboard.limits.scanOrder ↔ ∃ n : Nat, code = n ∧ IsScanned n := by
  rw [usualLimits]
  exact mem_scanOrder code

theorem extendedCode_eq (c : Char) : keyboard.limits.extendedCode c = c.toNat + 511 := by
  rw [usualLimits]
  rfl

theorem nameOf?_listed_iff (scanned : IsScanned n) :
    keyboard.nameOf? n = some name ↔ keyboard.keyName n = name ∧ name ≠ "" := by
  -- An empty text from the terminal counts as no name.
  by_cases empty : keyboard.keyName n = ""
  · have unnamed : keyboard.nameOf? n = none := by
      rcases classify?_listed usualLimits scanned with ordinary | pseudo
      · simp only [nameOf?, ordinary, if_pos empty]
      · simp only [nameOf?, pseudo, if_pos empty]
    rw [unnamed, empty]
    constructor
    · intro named
      cases named
    · rintro ⟨rfl, filled⟩
      exact absurd rfl filled
  · rw [nameOf?_listed usualLimits scanned empty, Option.some_inj]
    constructor
    · rintro rfl
      exact ⟨rfl, empty⟩
    · exact And.left

/-- A key with a short name has it whatever the terminal says. -/
theorem keyName_of_short (dense : n < 511) (short : (KeyCode.shortNames.lookup (n : Int)).isSome) :
    keyboard.keyName n = usual.keyName n := by
  have slot : keyboard.limits.slot n = n := if_neg (by omega)
  have below : (n : Int) < keyboard.limits.keyMax := by
    rw [usualLimits, show ({} : Limits).keyMax = 511 from rfl]
    omega
  obtain ⟨name, found⟩ := Option.isSome_iff_exists.mp short
  rw [keyName_usual n dense]
  simp only [keyName, slot, found, if_pos below, Option.getD_some]

/-- The key that a former name stands for has another name. -/
theorem keyName_former {code : Int} (former : (name, code) ∈ KeyCode.formerNames) :
    ∃ n : Nat, code = n ∧ IsScanned n ∧ keyboard.keyName n ≠ "" ∧
      KeyCode.formerNames.lookup (keyboard.keyName n) = none := by
  have short : ∀ entry ∈ KeyCode.formerNames,
      (KeyCode.shortNames.lookup (entry.2.toNat : Int)).isSome := by decide
  obtain ⟨natural, scanned, named⟩ := formerNames_scanned (name, code) former
  have same := keyName_of_short usualLimits scanned.dense (short (name, code) former)
  dsimp only at natural scanned named same
  rw [natural, ← same] at named
  refine ⟨code.toNat, natural, scanned, named, ?_⟩
  rw [same]
  exact formerNames_lookup scanned

/-- A name that is no former one stands for the first key that has it. -/
theorem codeOf_eq_scanned_iff (scanned : IsScanned n) (filled : name ≠ "")
    (current : KeyCode.formerNames.lookup name = none) :
    keyboard.codeOf name = n ↔
      keyboard.keyName n = name ∧ ∀ m : Nat, IsScanned m → m < n → keyboard.keyName m ≠ name := by
  obtain ⟨first, rest, characters⟩ := head_of_ne_empty filled
  -- The scan goes upwards, so what it finds is the least code that answers.
  have ascending : keyboard.limits.scanOrder.Pairwise (· < ·) := by
    rw [usualLimits]
    exact scanOrder_ascending
  -- An extended code lies above every scanned one, so the fallback cannot give this code.
  have beyond : keyboard.limits.extendedCode first ≠ n := by
    have dense := scanned.dense
    rw [extendedCode_eq usualLimits]
    omega
  have member := (mem_search_iff usualLimits n).mpr ⟨n, rfl, scanned⟩
  simp only [codeOf, current, characters, Option.getD_eq_iff, beyond, and_false, or_false,
    find?_eq_some_iff_least ascending, member, true_and, beq_iff_eq, beq_eq_false_iff_ne]
  refine and_congr_right fun _ => ⟨fun least m scanned' less => ?_, fun least other member' less => ?_⟩
  · exact least m ((mem_search_iff usualLimits m).mpr ⟨m, rfl, scanned'⟩) (by omega)
  · obtain ⟨m, rfl, scanned'⟩ := (mem_search_iff usualLimits other).mp member'
    exact least m scanned' (by omega)

theorem codeOf_listed_iff (scanned : IsScanned n) (named : keyboard.nameOf? n = some name) :
    keyboard.codeOf name = n ↔
      KeyCode.formerNames.lookup name = none ∧
        ∀ m : Nat, IsScanned m → m < n → keyboard.nameOf? m ≠ some name := by
  obtain ⟨spelled, filled⟩ := (nameOf?_listed_iff usualLimits scanned).mp named
  cases current : KeyCode.formerNames.lookup name with
  | some code =>
    -- The key that the former name stands for does not have it, so this is another key.
    obtain ⟨m, rfl, -, -, other⟩ := keyName_former usualLimits (Entries.mem_of_lookup current)
    have differ : ¬ keyboard.codeOf name = n := by
      simp only [codeOf, current]
      intro same
      rw [same, spelled, current] at other
      cases other
    simp [differ]
  | none =>
    rw [codeOf_eq_scanned_iff usualLimits scanned filled current]
    simp only [spelled, true_and]
    refine forall₂_congr fun m scanned' => imp_congr_right fun _ => not_congr ?_
    rw [nameOf?_listed_iff usualLimits scanned']
    simp [filled]

/-- A name that is in use, and that is no former one, stands for a key that has it. -/
theorem codeOf_listed (scanned : IsScanned n) (named : keyboard.nameOf? n = some name)
    (current : KeyCode.formerNames.lookup name = none) :
    ∃ m : Nat, keyboard.codeOf name = m ∧ IsScanned m ∧ keyboard.nameOf? m = some name := by
  obtain ⟨spelled, filled⟩ := (nameOf?_listed_iff usualLimits scanned).mp named
  have member := (mem_search_iff usualLimits n).mpr ⟨n, rfl, scanned⟩
  obtain ⟨code, member', same, found⟩ := codeOf_of_known filled current ⟨n, member, spelled⟩
  obtain ⟨m, rfl, scanned'⟩ := (mem_search_iff usualLimits code).mp member'
  exact ⟨m, found, scanned', (nameOf?_listed_iff usualLimits scanned').mpr ⟨same, filled⟩⟩

theorem codeOf_unlisted {first : Char} {rest : List Char} (characters : name.toList = first :: rest)
    (current : KeyCode.formerNames.lookup name = none)
    (unlisted : ∀ n : Nat, IsScanned n → keyboard.nameOf? n ≠ some name) :
    keyboard.codeOf name = keyboard.limits.extendedCode first := by
  have filled : name ≠ "" := by
    rintro rfl
    simp at characters
  refine codeOf_of_unknown current characters fun code member same => ?_
  obtain ⟨m, rfl, scanned⟩ := (mem_search_iff usualLimits code).mp member
  exact unlisted m scanned ((nameOf?_listed_iff usualLimits scanned).mpr ⟨same, filled⟩)

/-- The character of an extended key stands for that key when no other key has it for a name. -/
theorem codeOf_character_iff (c : Char) :
    keyboard.codeOf (String.singleton c) = keyboard.limits.extendedCode c ↔
      ∀ n : Nat, IsScanned n → keyboard.nameOf? n ≠ some (String.singleton c) := by
  constructor
  · intro found n scanned named
    -- The search would have ended at a key of that name, and no key in it has an extended code.
    obtain ⟨m, same, scanned', -⟩ := codeOf_listed usualLimits scanned named (formerNames_singleton c)
    have dense := scanned'.dense
    rw [found, extendedCode_eq usualLimits] at same
    omega
  · exact codeOf_unlisted usualLimits (String.toList_singleton c) (formerNames_singleton c)

/-! ### Names that are looked up again -/

theorem nameOf?_codeOf_character (c : Char) :
    keyboard.nameOf? (keyboard.codeOf (String.singleton c)) = some (String.singleton c) := by
  by_cases listed : ∃ n : Nat, IsScanned n ∧ keyboard.nameOf? n = some (String.singleton c)
  · obtain ⟨n, scanned, named⟩ := listed
    obtain ⟨m, found, -, named'⟩ := codeOf_listed usualLimits scanned named (formerNames_singleton c)
    rw [found]
    exact named'
  · have unlisted : ∀ n : Nat, IsScanned n → keyboard.nameOf? n ≠ some (String.singleton c) :=
      fun n scanned named => listed ⟨n, scanned, named⟩
    rw [(codeOf_character_iff usualLimits c).mpr unlisted]
    exact nameOf?_character usualLimits c

/-- A text stands for an extended key, or for an ordinary or pseudo key whose name is no former one. -/
theorem codeOf_text (text : String) :
    (∃ c, keyboard.codeOf text = keyboard.limits.extendedCode c) ∨
    ∃ n : Nat, ∃ name, keyboard.codeOf text = n ∧ IsScanned n ∧ keyboard.nameOf? n = some name ∧
      KeyCode.formerNames.lookup name = none := by
  cases current : KeyCode.formerNames.lookup text with
  | some code =>
    obtain ⟨n, rfl, scanned, filled, fresh⟩ :=
      keyName_former usualLimits (Entries.mem_of_lookup current)
    refine .inr ⟨n, _, ?_, scanned, nameOf?_listed usualLimits scanned filled, fresh⟩
    simp only [codeOf, current]
  | none =>
    by_cases listed : ∃ n : Nat, IsScanned n ∧ keyboard.nameOf? n = some text
    · obtain ⟨n, scanned, named⟩ := listed
      obtain ⟨m, found, scanned', named'⟩ := codeOf_listed usualLimits scanned named current
      exact .inr ⟨m, text, found, scanned', named', current⟩
    · refine .inl ?_
      cases characters : text.toList with
      | nil =>
        -- The empty text stands for the first extended code, that of the null character.
        refine ⟨'\x00', ?_⟩
        simp only [codeOf, current, characters, Limits.extendedCode]
        exact (Int.zero_add _).symm
      | cons first rest =>
        exact ⟨first, codeOf_unlisted usualLimits characters current fun n scanned named =>
          listed ⟨n, scanned, named⟩⟩

end

/-! ### The keyboards that terminals give -/

theorem formerNames_lookup_eq_none_iff (name : String) :
    KeyCode.formerNames.lookup name = none ↔ name ≠ "^J" ∧ name ≠ "KEY_HOME" ∧ name ≠ "KEY_END" := by
  rw [List.lookup_eq_none_iff]
  simp [KeyCode.formerNames]

/-- With the usual names only the shadowed keys are not found by their names. -/
theorem codeOf_name_eq_iff {code : Int} {name : String} (named : usual.nameOf? code = some name) :
    usual.codeOf name = code ↔ ¬ IsShadowed code := by
  constructor
  · rintro found
    rw [← found]
    exact not_isShadowed_codeOf named
  · intro plain
    rcases nameOf?_cases named with ⟨c, rfl, rfl⟩ | ⟨n, rfl, scanned, filled, rfl⟩
    · exact codeOf_extended fun graphic => plain ⟨c, graphic, rfl⟩
    · exact codeOf_keyName scanned filled

/-- Whatever the terminal calls its keys, an ordinary or pseudo key is found by its name exactly when
this is no former name and no key before it in the search has the same one. An extended key is found
by its character exactly when no ordinary or pseudo key is called so. With the usual names every key
is found by its name, apart from the extended keys of the characters that have a key of their own. -/
theorem codeOf_name_iff :
    (∀ terminal : Terminal, (∀ code ∈ usual.limits.scanOrder, terminal code ≠ .brokenDown) →
      ∃ keyboard, make {} terminal = .ok keyboard ∧
        ∀ code name, keyboard.nameOf? code = some name →
          (keyboard.limits.classify? code ≠ some .extended →
            (keyboard.codeOf name = code ↔
              (name ≠ "^J" ∧ name ≠ "KEY_HOME" ∧ name ≠ "KEY_END") ∧
                ∀ n : Nat, IsScanned n → n < code → keyboard.nameOf? n ≠ some name)) ∧
          (keyboard.limits.classify? code = some .extended →
            name.toList.length = 1 ∧
              (keyboard.codeOf name = code ↔
                ∀ n : Nat, IsScanned n → keyboard.nameOf? n ≠ some name))) ∧
    ∃ keyboard, make {} Terminal.usual = .ok keyboard ∧
      ∀ code name, keyboard.nameOf? code = some name →
        (keyboard.codeOf name = code ↔
          ¬ ∃ c, ('!' ≤ c ∧ c ≤ '~') ∧ code = keyboard.limits.extendedCode c) := by
  refine ⟨fun terminal answers => ?_, usual, make_usual, fun code name => codeOf_name_eq_iff⟩
  obtain ⟨keyboard, made⟩ : ∃ keyboard, make {} terminal = .ok keyboard :=
    ⟨_, make_answered terminal answers⟩
  have usualLimits : keyboard.limits = {} := by rw [eq_of_make made]
  refine ⟨keyboard, made, fun code name named => ?_⟩
  -- A named code is the extended one of a character or a scanned one.
  rcases nameOf?_forms usualLimits named with ⟨c, rfl, rfl⟩ | ⟨n, rfl, scanned, -, -⟩
  · have range := Limits.classify?_extendedCode (roomy_of_make made) c
    exact ⟨fun dense => absurd range dense, fun _ => ⟨by simp, codeOf_character_iff usualLimits c⟩⟩
  · have dense : keyboard.limits.classify? n ≠ some .extended := by
      rcases classify?_listed usualLimits scanned with range | range <;> rw [range] <;> decide
    refine ⟨fun _ => ?_, fun extended => absurd extended dense⟩
    rw [codeOf_listed_iff usualLimits scanned named, formerNames_lookup_eq_none_iff]
    simp only [Int.ofNat_lt]

/-- A terminal that calls the key `A` by the name of the key `B`, which is then found no more. -/
theorem codeOf_name_iff_shared :
    let terminal := Terminal.usual.answering [(65, .text "B")]
    (∀ code ∈ usual.limits.scanOrder, terminal code ≠ .brokenDown) ∧
      ∃ keyboard, make {} terminal = .ok keyboard ∧ keyboard.nameOf? 66 = some "B" ∧
        keyboard.codeOf "B" ≠ 66 := by
  intro terminal
  have answers : ∀ code ∈ usual.limits.scanOrder, terminal code ≠ .brokenDown := by
    intro code _
    simp only [terminal, Terminal.answering, Terminal.usual, Entries.lookup_cons, List.lookup_nil]
    split <;> simp
  obtain ⟨keyboard, made, found⟩ := codeOf_name_iff.1 terminal answers
  obtain rfl := eq_of_make made
  refine ⟨answers, _, made, by decide +kernel, fun back => ?_⟩
  have first := ((found 66 "B" (by decide +kernel)).1 (by decide)).mp back
  exact first.2 65 (by decide) (by decide) (by decide +kernel)

/-- Every text stands for a key code with a name. That name, looked up again, stands for a key of the
same name. -/
theorem codeOf_twice (terminal : Terminal)
    (answers : ∀ code ∈ usual.limits.scanOrder, terminal code ≠ .brokenDown) :
    ∃ keyboard, make {} terminal = .ok keyboard ∧
      ∀ text : String, keyboard.limits.isValid (keyboard.codeOf text) = true ∧
        ∃ name, keyboard.nameOf? (keyboard.codeOf text) = some name ∧
          keyboard.nameOf? (keyboard.codeOf name) = some name := by
  obtain ⟨keyboard, made⟩ : ∃ keyboard, make {} terminal = .ok keyboard :=
    ⟨_, make_answered terminal answers⟩
  have usualLimits : keyboard.limits = {} := by rw [eq_of_make made]
  refine ⟨keyboard, made, fun text => ⟨isValid_codeOf_usual usualLimits text, ?_⟩⟩
  -- The first lookup ends in an extended code or in a scanned one under its current name.
  rcases codeOf_text usualLimits text with ⟨c, found⟩ | ⟨n, name, found, scanned, named, current⟩
  · rw [found]
    exact ⟨_, nameOf?_character usualLimits c, nameOf?_codeOf_character usualLimits c⟩
  · obtain ⟨m, found', -, named'⟩ := codeOf_listed usualLimits scanned named current
    rw [found]
    refine ⟨name, named, ?_⟩
    rw [found']
    exact named'

/-- A terminal that calls an earlier key by the short name of the return key: the former name of the
return key leads to it, and its name then leads to the other key. -/
theorem codeOf_twice_former :
    let terminal := Terminal.usual.answering [(5, .text "RET")]
    (∀ code ∈ usual.limits.scanOrder, terminal code ≠ .brokenDown) ∧
      ∃ keyboard, make {} terminal = .ok keyboard ∧ keyboard.codeOf "^J" = 10 ∧
        keyboard.codeOf "RET" = 5 ∧ keyboard.nameOf? (keyboard.codeOf "RET") = some "RET" := by
  intro terminal
  have answers : ∀ code ∈ usual.limits.scanOrder, terminal code ≠ .brokenDown := by
    intro code _
    simp only [terminal, Terminal.answering, Terminal.usual, Entries.lookup_cons, List.lookup_nil]
    split <;> simp
  obtain ⟨keyboard, made, twice⟩ := codeOf_twice terminal answers
  obtain rfl := eq_of_make made
  obtain ⟨-, name, named, again⟩ := twice "^J"
  have former : (⟨{}, fun code => (terminal code).name⟩ : Keyboard).codeOf "^J" = 10 := by decide
  have shown : (⟨{}, fun code => (terminal code).name⟩ : Keyboard).nameOf? 10 = some "RET" := by
    decide +kernel
  rw [former, shown, Option.some_inj] at named
  rw [← named] at again
  exact ⟨answers, _, made, former, by decide +kernel, again⟩

end KeyBindings.Keyboard
