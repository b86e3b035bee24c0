/-
Hexadecimal text and the octets that it is stored as.  A digit is one octet of
UTF-8, and every octet of another character lies outside ASCII, so that a
decoder of octets accepts a text exactly when its characters come in pairs of
digits.
-/

import FlashScript.Text.Hex

namespace FlashScript.Hex

/-- A character that stands for a value below sixteen, in either letter case. -/
def Digit (character : Char) (value : Nat) : Prop :=
  value < 16 ∧
    (character = Nat.digitChar value ∨ character = (Nat.digitChar value).toUpper)

def Valued (character : Char) : Prop :=
  ∃ value, Digit character value

/-- Two digits a byte, the high one first. -/
inductive Spells : List Char → List UInt8 → Prop where
  | nil : Spells [] []
  | cons {high low : Char} {highValue lowValue : Nat} {digits : List Char}
      {bytes : List UInt8} (first : Digit high highValue)
      (second : Digit low lowValue) (rest : Spells digits bytes) :
      Spells (high :: low :: digits)
        (UInt8.ofNat (16 * highValue + lowValue) :: bytes)

/-- What is known of a decoder of hexadecimal text: it takes pairs of digits of
either letter case and nothing else, and gives the bytes that they spell. -/
structure Decodes (decode : List UInt8 → Option (List UInt8)) : Prop where
  accepts : ∀ octets, (∃ bytes, decode octets = some bytes) ↔
    octets.length % 2 = 0 ∧ ∀ octet ∈ octets, Valued (Char.ofUInt8 octet)
  spells : ∀ octets bytes, decode octets = some bytes →
    Spells (octets.map Char.ofUInt8) bytes

variable {text digits : List Char} {bytes : List UInt8} {digit character : Char}
  {value : Nat}

/-! ### Digits -/

theorem Digit.digitValue?_eq (is : Digit digit value) : digitValue? digit = some value := by
  obtain ⟨small, rfl | rfl⟩ := is
  · revert value
    decide
  · revert value
    decide

theorem toNat_of_digitValue? (found : digitValue? digit = some value) :
    digit.toNat < 128 := by
  unfold digitValue? at found
  have bounded {last : Char} (below : digit ≤ last) : digit.toNat ≤ last.toNat :=
    UInt32.le_iff_toNat_le.mp (Char.le_def.mp below)
  split at found
  · rename_i decimal
    exact Nat.lt_of_le_of_lt (bounded decimal.2) (by decide)
  · split at found
    · rename_i capital
      exact Nat.lt_of_le_of_lt (bounded capital.2) (by decide)
    · split at found
      · rename_i small
        exact Nat.lt_of_le_of_lt (bounded small.2) (by decide)
      · cases found

theorem digitValue?_eq_some_iff : digitValue? digit = some value ↔ Digit digit value := by
  constructor
  · intro found
    have ascii : ∀ place < 128, ∀ value ∈ digitValue? (Char.ofNat place),
        value < 16 ∧ (Char.ofNat place = Nat.digitChar value ∨
          Char.ofNat place = (Nat.digitChar value).toUpper) := by decide
    have own := ascii digit.toNat (toNat_of_digitValue? found)
    rw [Char.ofNat_toNat] at own
    exact own value found
  · intro is
    exact is.digitValue?_eq

theorem isDigit_iff : isDigit digit = true ↔ Valued digit := by
  rw [isDigit, Option.isSome_iff_exists]
  exact exists_congr (fun _ => digitValue?_eq_some_iff)

theorem isDigit_eq_false_iff : isDigit digit = false ↔ ¬Valued digit := by
  rw [← isDigit_iff, Bool.not_eq_true]

instance decidableValued (character : Char) : Decidable (Valued character) :=
  decidable_of_iff (isDigit character = true) isDigit_iff

theorem Valued.toNat_lt (valued : Valued character) : character.toNat < 128 := by
  obtain ⟨value, is⟩ := valued
  exact toNat_of_digitValue? is.digitValue?_eq

/-! ### Pairs of digits -/

theorem Digit.unique {other : Nat} (is : Digit digit value)
    (again : Digit digit other) : value = other :=
  Option.some.inj (is.digitValue?_eq.symm.trans again.digitValue?_eq)

theorem Spells.unique {others : List UInt8} (spells : Spells digits bytes)
    (again : Spells digits others) : bytes = others := by
  induction spells generalizing others with
  | nil =>
      cases again
      rfl
  | cons first second rest inductionHypothesis =>
      cases again with
      | cons same alike later =>
          rw [first.unique same, second.unique alike, inductionHypothesis later]

theorem Spells.paired (spells : Spells digits bytes) :
    digits.length % 2 = 0 ∧ ∀ digit ∈ digits, Valued digit := by
  induction spells with
  | nil => exact ⟨rfl, nofun⟩
  | cons first second rest inductionHypothesis =>
      obtain ⟨even, valued⟩ := inductionHypothesis
      constructor
      · simp only [List.length_cons]
        omega
      · exact List.forall_mem_cons.mpr ⟨⟨_, first⟩,
          List.forall_mem_cons.mpr ⟨⟨_, second⟩, valued⟩⟩

theorem exists_spells : ∀ {digits : List Char}, digits.length % 2 = 0 →
    (∀ digit ∈ digits, Valued digit) → ∃ bytes, Spells digits bytes
  | [], _, _ => ⟨[], .nil⟩
  | [single], even, _ => by cases even
  | high :: low :: rest, even, valued => by
      obtain ⟨⟨highValue, first⟩, others⟩ := List.forall_mem_cons.mp valued
      obtain ⟨⟨lowValue, second⟩, later⟩ := List.forall_mem_cons.mp others
      have evenRest : rest.length % 2 = 0 := by
        simp only [List.length_cons] at even
        omega
      obtain ⟨bytes, spells⟩ := exists_spells evenRest later
      exact ⟨_, .cons first second spells⟩

theorem Spells.decode?_eq (spells : Spells digits bytes) :
    decode? digits = some bytes := by
  induction spells with
  | nil => rfl
  | cons first second rest inductionHypothesis =>
      rw [decode?, first.digitValue?_eq, second.digitValue?_eq, inductionHypothesis]

theorem spells_of_decode? (decoded : decode? digits = some bytes) :
    Spells digits bytes := by
  induction digits using decode?.induct generalizing bytes with
  | case1 =>
      cases decoded
      exact .nil
  | case2 single => cases decoded
  | case3 high low rest highValue lowValue others later second first
      inductionHypothesis =>
      rw [decode?, first, second, later] at decoded
      cases decoded
      exact .cons (digitValue?_eq_some_iff.mp first)
        (digitValue?_eq_some_iff.mp second) (inductionHypothesis later)
  | case4 high low rest unpaired inductionHypothesis =>
      rw [decode?] at decoded
      split at decoded
      · rename_i highValue lowValue others first second later
        exact (unpaired highValue lowValue others first second later).elim
      · cases decoded

/-- Reading octets as characters of their own is such a decoder. -/
theorem decodes_decodeOctets? : Decodes decodeOctets? where
  accepts := by
    intro octets
    constructor
    · intro ⟨bytes, decoded⟩
      obtain ⟨even, valued⟩ := (spells_of_decode? decoded).paired
      rw [List.length_map] at even
      exact ⟨even, List.forall_mem_map.mp valued⟩
    · intro ⟨even, valued⟩
      rw [← List.length_map Char.ofUInt8] at even
      obtain ⟨bytes, spells⟩ := exists_spells even (List.forall_mem_map.mpr valued)
      exact ⟨bytes, spells.decode?_eq⟩
  spells := by
    intro octets bytes decoded
    exact spells_of_decode? decoded

/-! ### Letter case -/

theorem toUpper_of_large (large : 128 ≤ character.toNat) :
    character.toUpper = character := by
  have other : ¬('a'.val ≤ character.val ∧ character.val ≤ 'z'.val) := by
    rintro ⟨_, below⟩
    have bounded : character.toNat ≤ 122 := UInt32.le_iff_toNat_le.mp below
    omega
  exact dif_neg other

/-- What holds of the ASCII characters and of those that have no case. -/
theorem toUpper_induction {motive : Char → Char → Prop}
    (ascii : ∀ place < 128, motive (Char.ofNat place) (Char.ofNat place).toUpper)
    (large : ∀ character : Char, 128 ≤ character.toNat → motive character character)
    (character : Char) : motive character character.toUpper := by
  rcases Nat.lt_or_ge character.toNat 128 with small | above
  · have own := ascii character.toNat small
    rw [Char.ofNat_toNat] at own
    exact own
  · rw [toUpper_of_large above]
    exact large character above

theorem digitValue?_toUpper (character : Char) :
    digitValue? character.toUpper = digitValue? character := by
  apply toUpper_induction (motive := fun plain capital =>
    digitValue? capital = digitValue? plain)
  · decide
  · intro character large
    rfl

theorem eq_colon_of_toUpper (capital : character.toUpper = ':') : character = ':' := by
  revert capital
  apply toUpper_induction (motive := fun plain capital => capital = ':' → plain = ':')
  · decide
  · intro character large same
    exact same

theorem digit_toUpper_iff : Digit character.toUpper value ↔ Digit character value := by
  rw [← digitValue?_eq_some_iff, digitValue?_toUpper, digitValue?_eq_some_iff]

theorem Digit.toUpper_eq (is : Digit digit value) :
    digit.toUpper = (Nat.digitChar value).toUpper := by
  have capital : ∀ value < 16,
      (Nat.digitChar value).toUpper.toUpper = (Nat.digitChar value).toUpper := by decide
  obtain ⟨small, rfl | rfl⟩ := is
  · rfl
  · exact capital value small

/-- Digits differ in nothing but case if they stand for one value. -/
theorem Digit.toUpper_eq_iff {other : Char} {otherValue : Nat} (is : Digit digit value)
    (also : Digit other otherValue) :
    digit.toUpper = other.toUpper ↔ value = otherValue := by
  constructor
  · intro same
    have shared := digit_toUpper_iff.mpr is
    rw [same] at shared
    exact (digit_toUpper_iff.mp shared).unique also
  · rintro rfl
    rw [is.toUpper_eq, also.toUpper_eq]

theorem decode?_map_toUpper (digits : List Char) :
    decode? (digits.map Char.toUpper) = decode? digits := by
  induction digits using decode?.induct with
  | case1 => rfl
  | case2 single => rfl
  | case3 high low rest highValue lowValue others later second first
      inductionHypothesis =>
      simp only [List.map_cons, decode?, digitValue?_toUpper, inductionHypothesis]
  | case4 high low rest unpaired inductionHypothesis =>
      simp only [List.map_cons, decode?, digitValue?_toUpper, inductionHypothesis]

theorem spells_map_toUpper_iff :
    Spells (digits.map Char.toUpper) bytes ↔ Spells digits bytes := by
  constructor
  · intro spells
    apply spells_of_decode?
    rw [← decode?_map_toUpper]
    exact spells.decode?_eq
  · intro spells
    apply spells_of_decode?
    rw [decode?_map_toUpper]
    exact spells.decode?_eq

theorem values_of_byte_eq {high low otherHigh otherLow : Nat} (highSmall : high < 16)
    (lowSmall : low < 16) (otherHighSmall : otherHigh < 16)
    (otherLowSmall : otherLow < 16)
    (same : UInt8.ofNat (16 * high + low) = UInt8.ofNat (16 * otherHigh + otherLow)) :
    high = otherHigh ∧ low = otherLow := by
  have numbers := congrArg UInt8.toNat same
  simp only [UInt8.toNat_ofNat'] at numbers
  omega

theorem Spells.map_toUpper_eq {others : List Char} (spells : Spells digits bytes)
    (also : Spells others bytes) :
    digits.map Char.toUpper = others.map Char.toUpper := by
  induction spells generalizing others with
  | nil =>
      cases also
      rfl
  | @cons high low highValue lowValue digits bytes first second rest
      inductionHypothesis =>
      generalize whole : UInt8.ofNat (16 * highValue + lowValue) :: bytes = all at also
      cases also with
      | nil => cases whole
      | cons alike same later =>
          obtain ⟨byte, rfl⟩ := List.cons.inj whole
          obtain ⟨highs, lows⟩ :=
            values_of_byte_eq first.1 second.1 alike.1 same.1 byte
          rw [List.map_cons, List.map_cons, (first.toUpper_eq_iff alike).mpr highs,
            (second.toUpper_eq_iff same).mpr lows, inductionHypothesis later]
          rfl

/-- What is known of a writer of hexadecimal text: two digits a byte, and no
small letter among them. -/
structure Writes (write : List UInt8 → List Char) : Prop where
  spells : ∀ bytes, Spells (write bytes) bytes
  capital : ∀ bytes, ∀ digit ∈ write bytes, digit.toUpper = digit

theorem Writes.write_eq {write : List UInt8 → List Char} (lawful : Writes write)
    (spells : Spells digits bytes) : write bytes = digits.map Char.toUpper := by
  calc write bytes = (write bytes).map id := (List.map_id _).symm
    _ = (write bytes).map Char.toUpper :=
        List.map_congr_left (fun digit member =>
          (lawful.capital bytes digit member).symm)
    _ = digits.map Char.toUpper := (lawful.spells bytes).map_toUpper_eq spells

theorem capitalDigit_toUpper (number : Nat) (small : number < 16) :
    (capitalDigit number).toUpper = capitalDigit number := by
  revert number
  decide

theorem writes_encode : Writes encode where
  spells := by
    intro bytes
    exact spells_of_decode? (decode?_encode bytes)
  capital := by
    intro bytes digit member
    obtain ⟨byte, _, own⟩ := List.mem_flatMap.mp member
    have bounded := byte.toNat_lt
    rcases List.mem_cons.mp own with rfl | last
    · exact capitalDigit_toUpper _ (by omega)
    · rw [List.mem_singleton.mp last]
      exact capitalDigit_toUpper _ (by omega)

/-! ### Octets of a text -/

theorem toNat_ofUInt8 (octet : UInt8) : (Char.ofUInt8 octet).toNat = octet.toNat :=
  UInt8.toNat_toUInt32 octet

theorem octets_of_ascii (small : character.toNat < 128) :
    (String.utf8EncodeChar character).map Char.ofUInt8 = [character] := by
  have single : character.val.toNat ≤ 127 := Nat.le_of_lt_succ small
  simp only [String.utf8EncodeChar, if_pos single, List.map_cons, List.map_nil]
  congr 1
  apply Char.toNat_inj.mp
  rw [toNat_ofUInt8, UInt8.toNat_ofNat']
  change character.val.toNat % 2 ^ 8 = character.val.toNat
  omega

theorem le_octets_of_large (large : 128 ≤ character.toNat) :
    ∀ octet ∈ String.utf8EncodeChar character, 128 ≤ octet.toNat := by
  have several : ¬character.val.toNat ≤ 127 := Nat.not_le_of_lt large
  simp only [String.utf8EncodeChar, if_neg several]
  split
  · simp only [List.forall_mem_cons, UInt8.toNat_ofNat']
    refine ⟨?_, ?_, nofun⟩ <;> omega
  · split
    · simp only [List.forall_mem_cons, UInt8.toNat_ofNat']
      refine ⟨?_, ?_, ?_, nofun⟩ <;> omega
    · simp only [List.forall_mem_cons, UInt8.toNat_ofNat']
      refine ⟨?_, ?_, ?_, ?_, nofun⟩ <;> omega

theorem valued_octets_iff :
    (∀ octet ∈ String.utf8EncodeChar character, Valued (Char.ofUInt8 octet)) ↔
      Valued character := by
  by_cases small : character.toNat < 128
  · rw [← List.forall_mem_map (f := Char.ofUInt8) (P := Valued),
      octets_of_ascii small, List.forall_mem_singleton]
  · have large := Nat.le_of_not_lt small
    apply iff_of_false
    · intro valued
      obtain ⟨octet, member⟩ :=
        List.exists_mem_of_ne_nil _ (String.utf8EncodeChar_ne_nil (c := character))
      have bounded := (valued octet member).toNat_lt
      have above := le_octets_of_large large octet member
      rw [toNat_ofUInt8] at bounded
      omega
    · intro valued
      exact absurd valued.toNat_lt small

theorem octets_of_digits (valued : ∀ digit ∈ digits, Valued digit) :
    (digits.flatMap String.utf8EncodeChar).map Char.ofUInt8 = digits := by
  induction digits with
  | nil => rfl
  | cons digit later inductionHypothesis =>
      obtain ⟨own, others⟩ := List.forall_mem_cons.mp valued
      rw [List.flatMap_cons, List.map_append,
        octets_of_ascii own.toNat_lt, inductionHypothesis others]
      rfl

namespace Decodes

variable {decode : List UInt8 → Option (List UInt8)}

theorem of_spells (lawful : Decodes decode) (spells : Spells digits bytes) :
    decode (digits.flatMap String.utf8EncodeChar) = some bytes := by
  obtain ⟨even, valued⟩ := spells.paired
  have same := octets_of_digits valued
  have octets : (digits.flatMap String.utf8EncodeChar).length % 2 = 0 ∧
      ∀ octet ∈ digits.flatMap String.utf8EncodeChar,
        Valued (Char.ofUInt8 octet) := by
    constructor
    · rw [← List.length_map Char.ofUInt8, same]
      exact even
    · intro octet member
      have own := List.mem_map_of_mem (f := Char.ofUInt8) member
      rw [same] at own
      exact valued _ own
  obtain ⟨found, decoded⟩ := (lawful.accepts _).mpr octets
  have spelled := lawful.spells _ _ decoded
  rw [same] at spelled
  rw [decoded, spelled.unique spells]

/-- A text is accepted only if its characters are pairs of digits. -/
theorem paired (lawful : Decodes decode)
    (decoded : decode (text.flatMap String.utf8EncodeChar) = some bytes) :
    text.length % 2 = 0 ∧ ∀ character ∈ text, Valued character := by
  obtain ⟨even, octets⟩ := (lawful.accepts _).mp ⟨bytes, decoded⟩
  have valued : ∀ character ∈ text, Valued character := by
    intro character member
    apply valued_octets_iff.mp
    intro octet among
    exact octets octet (List.mem_flatMap.mpr ⟨character, member, among⟩)
  rw [← List.length_map Char.ofUInt8, octets_of_digits valued] at even
  exact ⟨even, valued⟩

end Decodes

end FlashScript.Hex
