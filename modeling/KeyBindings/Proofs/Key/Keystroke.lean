import KeyBindings.Key.Decoding
import KeyBindings.Proofs.Key.Decoding
import KeyBindings.Proofs.Text.Utf8
import Mathlib.Data.List.Infix

/-!
# Keystrokes are keys

The units that the terminal delivers for a keystroke decode to the code of the keystroke, whatever
is typed after it. A character of several octets is recognised by its first octet, so no
pseudo-key may be as low as such an octet. Keystrokes typed one after the other are then decoded one by
one.
-/
namespace KeyBindings

theorem map_octetOf (octets : List Nat) (small : ∀ octet ∈ octets, octet < 0x100) :
    (octets.map fun octet : Nat => (octet : Int)).map octetOf = octets := by
  rw [List.map_map]
  refine (List.map_congr_left fun octet member => ?_).trans (List.map_id octets)
  have bound := small octet member
  simp only [Function.comp_apply, octetOf, id_eq]
  omega

namespace Keystroke

variable {limits : Limits}

theorem isKey_char (c : Char) (leads : 0xF4 < limits.keyMin) :
    IsKey limits (char c).units ((char c).code limits) := by
  -- An ASCII character is one unit; any other one is announced by its first octet.
  by_cases ascii : c.toNat < 0x80
  · have units : (char c).units = [some (c.toNat : Int)] := by
      simp [Keystroke.units, Text.Utf8.encodeChar, Text.Utf8.encodePoint, ascii]
    rw [units, code, if_pos ascii]
    exact .of_single _ (Int.natCast_nonneg _) (.inr (by omega))
  · have scalar : c.toNat < 0x110000 := by
      have valid : c.toNat < 0xD800 ∨ 0xDFFF < c.toNat ∧ c.toNat < 0x110000 := c.valid
      omega
    obtain ⟨lead, octets, spelled, low, high, several, announced, small⟩ :=
      Text.Utf8.encodePoint_wide c.toNat (by omega) scalar
    have read := Text.Utf8.char?_encodeChar c
    rw [Text.Utf8.encodeChar, spelled] at read
    -- The units are octets already, so masking them to eight bits changes nothing.
    have back : ((lead : Int) :: octets.map fun octet : Nat => (octet : Int)).map octetOf = lead :: octets :=
      map_octetOf (lead :: octets) (List.forall_mem_cons.mpr ⟨by omega, small⟩)
    have form := @KeyForm.several limits lead (octets.map fun octet : Nat => (octet : Int))
      (by omega) (by omega) (by simpa using announced) (by simp)
    rw [back, read, Option.getD_some] at form
    have key := IsKey.of_form form
    rw [List.map_cons, List.map_map] at key
    rw [Keystroke.units, Text.Utf8.encodeChar, spelled, code, if_neg ascii]
    exact key

/-- The units of a character, and those of a pseudo-key in its range, are the key of their code. -/
theorem isKey (key : Keystroke) (leads : 0xF4 < limits.keyMin)
    (pseudo : ∀ value, key = .pseudo value → limits.keyMin ≤ value) :
    IsKey limits key.units (key.code limits) := by
  cases key with
  | char c => exact isKey_char c leads
  | pseudo value =>
    have above := pseudo value rfl
    exact .of_single value (by omega) (.inl above)

/-! ### Keystrokes one after the other -/

theorem decodeAll_key {units : Script} {code : Int} (key : IsKey limits units code) (script : Script) :
    decodeAll limits (units ++ script) = (some code, script) :: decodeAll limits script := by
  have filled : units ++ script ≠ [] := by simp [key.nonempty]
  rw [decodeAll, dif_neg filled]
  simp only [key.decoded]

/-- Keystrokes that are typed one after the other are decoded one by one. A character of ASCII has its
code point as its code, any other character its code point above the pseudo-keys, and a pseudo-key
itself. Each decoding leaves the units of the keystrokes that are still to come, and behind the last
one there is nothing. -/
theorem decodeAll_keystrokes (keys : List Keystroke)
    (inRange : ∀ value, pseudo value ∈ keys → 257 ≤ value ∧ value < 511) :
    let script := fun keys : List Keystroke => keys.flatMap units
    let decoded := decodeAll {} (script keys)
    decoded.map Prod.fst = keys.map (fun key => some (match key with
      | char c => if c.toNat < 0x80 then (c.toNat : Int) else c.toNat + 511
      | pseudo value => value)) ∧
    decoded.map Prod.snd = keys.tails.tail.map script ∧
    decodeKey {} [] = (none, []) := by
  intro script decoded
  rw [← and_assoc]
  refine ⟨?_, rfl⟩
  simp only [decoded, script]
  -- The first decoding leaves what the others start from, so the induction is on the keystrokes.
  induction keys with
  | nil => simp [decodeAll]
  | cons key rest ih =>
    have first : IsKey {} key.units (key.code {}) := by
      apply isKey key (by decide)
      intro value same
      subst same
      exact (inRange value List.mem_cons_self).1
    obtain ⟨codes, rests⟩ := ih fun value member => inRange value (List.mem_cons_of_mem _ member)
    have suffixes : rest.tails = rest :: rest.tails.tail := by cases rest <;> simp
    rw [List.flatMap_cons, decodeAll_key first]
    constructor
    · rw [List.map_cons, codes, List.map_cons]
      cases key <;> rfl
    · rw [List.map_cons, rests, List.tails_cons, List.tail_cons, suffixes, List.map_cons]
      rfl

/-- The null character, the first and the last character of every length with the neighbours of the
surrogates, and the first and the last pseudo-key between them. -/
theorem decodeAll_keystrokes_bounds :
    let keys : List Keystroke := [char '\x00', pseudo 257, char '\x7f', char '\u0080', char '\u07ff',
      pseudo 510, char '\u0800', char '\ud7ff', char '\ue000', char '\uffff', pseudo 410,
      char (Char.ofNat 0x10000), char (Char.ofNat 0x10ffff)]
    (∀ value, pseudo value ∈ keys → 257 ≤ value ∧ value < 511) ∧
      (decodeAll {} (keys.flatMap units)).map Prod.fst =
        [some 0, some 257, some 0x7F, some (0x80 + 511), some (0x7FF + 511), some 510,
          some (0x800 + 511), some (0xD7FF + 511), some (0xE000 + 511), some (0xFFFF + 511), some 410,
          some (0x10000 + 511), some (0x10FFFF + 511)] := by
  intro keys
  have inRange : ∀ value, pseudo value ∈ keys → 257 ≤ value ∧ value < 511 := by
    intro value member
    simp only [keys, List.mem_cons, List.not_mem_nil, or_false, reduceCtorEq, false_or,
      Keystroke.pseudo.injEq] at member
    omega
  refine ⟨inRange, ?_⟩
  rw [(decodeAll_keystrokes keys inRange).1]
  decide

end Keystroke

end KeyBindings
