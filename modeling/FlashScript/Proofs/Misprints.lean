/-
Lines with one misprint.  A character too many or too few leaves a digit without
a partner.  A digit replaced, or two swapped, moves the sum of the bytes by 1, 15
or 16 times the difference of two digits, which is no multiple of 256 unless the
two are of one value; so a misprinted line is refused, or it is the same line in
other letter case.
-/

import FlashScript.Proofs.RoundTrip

namespace FlashScript

/-! ### Sums of digits -/

namespace Hex

variable {digits others before after : List Char} {bytes : List UInt8}
  {first second old new : Char} {firstValue secondValue oldValue newValue : Nat}

/-- What a digit adds to the sum of the bytes, as the high or the low one. -/
def worth (high : Bool) (digit : Char) : Nat :=
  (if high then 16 else 1) * (digitValue? digit).getD 0

/-- High and low digits take turns. -/
def digitSum : Bool → List Char → Nat
  | _, [] => 0
  | high, digit :: later => worth high digit + digitSum (!high) later

theorem Digit.worth_eq (is : Digit old oldValue) (high : Bool) :
    worth high old = (if high then 16 else 1) * oldValue := by
  rw [worth, is.digitValue?_eq, Option.getD_some]

theorem Spells.total_eq (spells : Spells digits bytes) :
    Record.total bytes = digitSum true digits := by
  induction spells with
  | nil => rfl
  | @cons high low highValue lowValue digits bytes highIs lowIs rest
      inductionHypothesis =>
      have highSmall := highIs.1
      have lowSmall := lowIs.1
      change (UInt8.ofNat (16 * highValue + lowValue)).toNat + Record.total bytes =
        worth true high + (worth false low + digitSum true digits)
      rw [highIs.worth_eq, lowIs.worth_eq, inductionHypothesis, UInt8.toNat_ofNat']
      simp only [if_true, if_neg Bool.false_ne_true]
      omega

/-- The digits before a place decide by their number which turn it is there. -/
theorem exists_digitSum_append (high : Bool) (before : List Char) :
    ∃ turn, ∀ later, digitSum high (before ++ later) =
      digitSum high before + digitSum turn later := by
  induction before generalizing high with
  | nil => exact ⟨high, fun later => (Nat.zero_add _).symm⟩
  | cons digit rest inductionHypothesis =>
      obtain ⟨turn, split⟩ := inductionHypothesis (!high)
      refine ⟨turn, ?_⟩
      intro later
      rw [List.cons_append, digitSum, digitSum, split, Nat.add_assoc]

/-- A digit weighs 16 or 1, and so does the one that replaces it. -/
theorem value_eq_of_replaced (is : Digit old oldValue) (becomes : Digit new newValue)
    (same : digitSum true (before ++ old :: after) % 256 =
      digitSum true (before ++ new :: after) % 256) : oldValue = newValue := by
  obtain ⟨turn, split⟩ := exists_digitSum_append true before
  have oldSmall := is.1
  have newSmall := becomes.1
  rw [split, split, digitSum, digitSum, is.worth_eq, becomes.worth_eq] at same
  cases turn with
  | true =>
      simp only [if_true] at same
      omega
  | false =>
      simp only [if_neg Bool.false_ne_true] at same
      omega

/-- One of two neighbours weighs 16 and the other 1, in either order. -/
theorem value_eq_of_swapped (is : Digit first firstValue)
    (also : Digit second secondValue)
    (same : digitSum true (before ++ first :: second :: after) % 256 =
      digitSum true (before ++ second :: first :: after) % 256) :
    firstValue = secondValue := by
  obtain ⟨turn, split⟩ := exists_digitSum_append true before
  have firstSmall := is.1
  have secondSmall := also.1
  simp only [split, digitSum, is.worth_eq, also.worth_eq] at same
  cases turn with
  | true =>
      simp only [Bool.not_true, if_true, if_neg Bool.false_ne_true] at same
      omega
  | false =>
      simp only [Bool.not_false, if_true, if_neg Bool.false_ne_true] at same
      omega

end Hex

/-! ### Misprints -/

/-- One text is another with one character replaced, left out or added, or with
two neighbours swapped. -/
inductive Misprint : List Char → List Char → Prop where
  | replaced (before : List Char) (old new : Char) (after : List Char) :
      Misprint (before ++ old :: after) (before ++ new :: after)
  | omitted (before : List Char) (old : Char) (after : List Char) :
      Misprint (before ++ old :: after) (before ++ after)
  | added (before : List Char) (new : Char) (after : List Char) :
      Misprint (before ++ after) (before ++ new :: after)
  | swapped (before : List Char) (first second : Char) (after : List Char) :
      Misprint (before ++ first :: second :: after) (before ++ second :: first :: after)

/-- A misprint that changes the value of a digit and leaves it a digit. -/
inductive DigitMisprint : List Char → List Char → Prop where
  | replaced (before after : List Char) {old new : Char} {oldValue newValue : Nat}
      (is : Hex.Digit old oldValue) (becomes : Hex.Digit new newValue)
      (differs : oldValue ≠ newValue) :
      DigitMisprint (before ++ old :: after) (before ++ new :: after)
  | swapped (before after : List Char) {first second : Char}
      {firstValue secondValue : Nat} (is : Hex.Digit first firstValue)
      (also : Hex.Digit second secondValue) (differs : firstValue ≠ secondValue) :
      DigitMisprint (before ++ first :: second :: after)
        (before ++ second :: first :: after)

variable {digits others : List Char} {bytes otherBytes : List UInt8} {mark : Char}

/-! ### Misprints of digits -/

/-- A misprint of the mark leaves the text as it was, or it is one of the digits. -/
theorem Misprint.of_cons (misprint : Misprint (mark :: digits) (mark :: others)) :
    others = digits ∨ Misprint digits others := by
  generalize text : mark :: digits = line at misprint
  generalize copy : mark :: others = edited at misprint
  cases misprint with
  | replaced before old new after =>
      cases before with
      | nil =>
          obtain ⟨_, rfl⟩ := List.cons.inj text
          exact .inl (List.cons.inj copy).2
      | cons first front =>
          rw [(List.cons.inj text).2, (List.cons.inj copy).2]
          exact .inr (.replaced front old new after)
  | omitted before old after =>
      cases before with
      | nil =>
          rw [(List.cons.inj text).2, ← show mark :: others = after from copy]
          exact .inr (.omitted [] mark others)
      | cons first front =>
          rw [(List.cons.inj text).2, (List.cons.inj copy).2]
          exact .inr (.omitted front old after)
  | added before new after =>
      cases before with
      | nil =>
          rw [(List.cons.inj copy).2, ← show mark :: digits = after from text]
          exact .inr (.added [] mark digits)
      | cons first front =>
          rw [(List.cons.inj text).2, (List.cons.inj copy).2]
          exact .inr (.added front new after)
  | swapped before first second after =>
      cases before with
      | nil =>
          obtain ⟨rfl, rfl⟩ := List.cons.inj text
          obtain ⟨rfl, rfl⟩ := List.cons.inj copy
          exact .inl rfl
      | cons head front =>
          rw [(List.cons.inj text).2, (List.cons.inj copy).2]
          exact .inr (.swapped front first second after)

/-- Two texts of digits with the same sum differ in nothing but case. -/
theorem Misprint.map_toUpper_eq (misprint : Misprint digits others)
    (spells : Hex.Spells digits bytes) (also : Hex.Spells others otherBytes)
    (same : Record.total bytes % 256 = Record.total otherBytes % 256) :
    others.map Char.toUpper = digits.map Char.toUpper := by
  obtain ⟨even, valued⟩ := spells.paired
  obtain ⟨evenOther, valuedOther⟩ := also.paired
  rw [spells.total_eq, also.total_eq] at same
  cases misprint with
  | replaced before old new after =>
      obtain ⟨oldValue, is⟩ := valued old List.mem_append_cons_self
      obtain ⟨newValue, becomes⟩ := valuedOther new List.mem_append_cons_self
      have values := Hex.value_eq_of_replaced is becomes same
      simp only [List.map_append, List.map_cons, (is.toUpper_eq_iff becomes).mpr values]
  | omitted before old after =>
      simp only [List.length_append, List.length_cons] at even evenOther
      omega
  | added before new after =>
      simp only [List.length_append, List.length_cons] at even evenOther
      omega
  | swapped before first second after =>
      obtain ⟨firstValue, is⟩ := valued first List.mem_append_cons_self
      obtain ⟨secondValue, also⟩ := valuedOther second List.mem_append_cons_self
      have values := Hex.value_eq_of_swapped is also same
      simp only [List.map_append, List.map_cons, (is.toUpper_eq_iff also).mpr values]

namespace DigitMisprint

theorem of_cons {edited : List Char} (misprint : DigitMisprint (mark :: digits) edited)
    (other : ¬Hex.Valued mark) :
    ∃ others, edited = mark :: others ∧ DigitMisprint digits others := by
  generalize text : mark :: digits = line at misprint
  cases misprint with
  | replaced before after is becomes differs =>
      cases before with
      | nil =>
          obtain ⟨rfl, _⟩ := List.cons.inj text
          exact absurd ⟨_, is⟩ other
      | cons first front =>
          obtain ⟨rfl, rfl⟩ := List.cons.inj text
          exact ⟨_, rfl, .replaced front after is becomes differs⟩
  | swapped before after is also differs =>
      cases before with
      | nil =>
          obtain ⟨rfl, _⟩ := List.cons.inj text
          exact absurd ⟨_, is⟩ other
      | cons first front =>
          obtain ⟨rfl, rfl⟩ := List.cons.inj text
          exact ⟨_, rfl, .swapped front after is also differs⟩

theorem length_eq (misprint : DigitMisprint digits others) :
    others.length = digits.length := by
  cases misprint with
  | replaced before after is becomes differs =>
      simp only [List.length_append, List.length_cons]
  | swapped before after is also differs =>
      simp only [List.length_append, List.length_cons]

theorem valued (misprint : DigitMisprint digits others)
    (valued : ∀ digit ∈ digits, Hex.Valued digit) :
    ∀ digit ∈ others, Hex.Valued digit := by
  cases misprint with
  | replaced before after is becomes differs =>
      simp only [List.forall_mem_append, List.forall_mem_cons] at valued ⊢
      exact ⟨valued.1, ⟨_, becomes⟩, valued.2.2⟩
  | swapped before after is also differs =>
      simp only [List.forall_mem_append, List.forall_mem_cons] at valued ⊢
      exact ⟨valued.1, valued.2.2.1, valued.2.1, valued.2.2.2⟩

theorem digitSum_ne (misprint : DigitMisprint digits others) :
    Hex.digitSum true digits % 256 ≠ Hex.digitSum true others % 256 := by
  intro same
  cases misprint with
  | replaced before after is becomes differs =>
      exact differs (Hex.value_eq_of_replaced is becomes same)
  | swapped before after is also differs =>
      exact differs (Hex.value_eq_of_swapped is also same)

/-- The digits stay digits, and their sum is another one. -/
theorem exists_spells (misprint : DigitMisprint digits others)
    (spells : Hex.Spells digits bytes) :
    ∃ otherBytes, Hex.Spells others otherBytes ∧
      Record.total bytes % 256 ≠ Record.total otherBytes % 256 := by
  obtain ⟨even, valued⟩ := spells.paired
  obtain ⟨otherBytes, also⟩ :=
    Hex.exists_spells (misprint.length_eq ▸ even) (misprint.valued valued)
  refine ⟨otherBytes, also, ?_⟩
  rw [spells.total_eq, also.total_eq]
  exact misprint.digitSum_ne

end DigitMisprint

/-! ### Misprinted lines -/

namespace Record

variable {decode : List UInt8 → Option (List UInt8)} {line edited : String}
  {record other : Record}

theorem total_toBytes (record : Record) : total record.toBytes % 256 = 0 :=
  byteSum_eq_zero_iff.mp record.byteSum_toBytes

theorem toUpper_eq_of_misprint (lawful : Hex.Decodes decode)
    (parsed : parseWith decode line = .ok record)
    (misprint : Misprint line.toList edited.toList)
    (accepted : parseWith decode edited = .ok other) : edited.toUpper = line.toUpper := by
  obtain ⟨digits, text, spells⟩ := (parseWith_eq_ok_iff lawful).mp parsed
  obtain ⟨others, copy, also⟩ := (parseWith_eq_ok_iff lawful).mp accepted
  rw [text, copy] at misprint
  apply String.toList_inj.mp
  rw [toList_toUpper text, toList_toUpper copy]
  rcases misprint.of_cons with rfl | within
  · rfl
  · rw [within.map_toUpper_eq spells also]
    rw [record.total_toBytes, other.total_toBytes]

theorem parseWith_of_digitMisprint (lawful : Hex.Decodes decode)
    (parsed : parseWith decode line = .ok record)
    (misprint : DigitMisprint line.toList edited.toList) :
    ∃ sum, parseWith decode edited = .error (.checksumMismatch sum) := by
  obtain ⟨digits, text, spells⟩ := (parseWith_eq_ok_iff lawful).mp parsed
  rw [text] at misprint
  obtain ⟨others, copy, within⟩ := misprint.of_cons (by decide)
  obtain ⟨otherBytes, also, differs⟩ := within.exists_spells spells
  rw [record.total_toBytes] at differs
  have said := SaidBy.decoded copy also (.unbalanced differs.symm)
  exact ⟨_, said.parseWith_eq lawful⟩

end Record

/-- A line with one misprint is refused, unless it is the same line in other
letter case.  If a digit has another value, or two neighbours of different
values are swapped, the checksum does not match. -/
theorem misprint_is_refused (decode : List UInt8 → Option (List UInt8))
    (lawful : Hex.Decodes decode) (line edited : String) (record : Record)
    (parsed : Record.parseWith decode line = .ok record)
    (misprint : Misprint line.toList edited.toList) :
    (edited.toUpper = line.toUpper → Record.parseWith decode edited = .ok record) ∧
      (edited.toUpper ≠ line.toUpper →
        ∃ error, Record.parseWith decode edited = .error error) ∧
      (DigitMisprint line.toList edited.toList →
        ∃ sum, Record.parseWith decode edited = .error (.checksumMismatch sum)) := by
  refine ⟨?_, ?_, ?_⟩
  · intro same
    exact Record.parseWith_of_toUpper_eq lawful parsed same
  · intro differs
    cases read : Record.parseWith decode edited with
    | error error => exact ⟨error, rfl⟩
    | ok other =>
        exact absurd (Record.toUpper_eq_of_misprint lawful parsed misprint read) differs
  · intro digits
    exact Record.parseWith_of_digitMisprint lawful parsed digits

/-- Two digits of neighbouring bytes are swapped, and a digit is left out. -/
theorem misprint_is_refused_across_bytes :
    ∃ record, Hex.Decodes Hex.decodeOctets? ∧
      Record.parse ":02000000AABB99" = .ok record ∧
      (∃ sum, Record.parse ":02000000ABAB99" = .error (.checksumMismatch sum)) ∧
      ∃ error, Record.parse ":02000000ABB99" = .error error := by
  have lawful := Hex.decodes_decodeOctets?
  obtain ⟨record, parsed⟩ : ∃ record, Record.parse ":02000000AABB99" = .ok record :=
    ⟨_, rfl⟩
  have swapped : Misprint ":02000000AABB99".toList ":02000000ABAB99".toList :=
    .swapped ":02000000A".toList 'A' 'B' "B99".toList
  have omitted : Misprint ":02000000AABB99".toList ":02000000ABB99".toList :=
    .omitted ":02000000".toList 'A' "ABB99".toList
  have digits : DigitMisprint ":02000000AABB99".toList ":02000000ABAB99".toList :=
    .swapped ":02000000A".toList "B99".toList (Hex.digitValue?_eq_some_iff.mp rfl)
      (Hex.digitValue?_eq_some_iff.mp rfl) (by decide : 10 ≠ 11)
  have refused := misprint_is_refused Hex.decodeOctets? lawful
  refine ⟨record, lawful, parsed, (refused _ _ record parsed swapped).2.2 digits, ?_⟩
  apply (refused _ _ record parsed omitted).2.1
  intro same
  have letters := congrArg (fun text => text.toList.length) same
  simp only [String.toUpper, String.toList_map, List.length_map] at letters
  exact absurd letters (by decide)

end FlashScript
