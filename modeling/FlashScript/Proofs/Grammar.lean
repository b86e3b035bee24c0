/-
What a record line says.  The grammar gives for every text its one outcome: a
text without the mark, the first character that is no digit, a digit without a
partner, or what the decoded bytes say.  Reading has this outcome although it
decodes octets before it looks at characters.
-/

import FlashScript.Record
import FlashScript.Proofs.Digits

namespace FlashScript

namespace Record

/-- Sum of the bytes as numbers. -/
def total (bytes : List UInt8) : Nat :=
  bytes.foldr (fun byte later => byte.toNat + later) 0

/-- The outcome of decoded bytes.  The sum is looked at before the length. -/
inductive SaidByBytes (bytes : List UInt8) : Except RecordError Record → Prop where
  | unbalanced (sum : total bytes % 256 ≠ 0) :
      SaidByBytes bytes (.error (.checksumMismatch (UInt8.ofNat (total bytes))))
  | tooShort (sum : total bytes % 256 = 0) (short : bytes.length < 5) :
      SaidByBytes bytes (.error (.tooShort bytes.length))
  | mismatch {count : UInt8} {others : List UInt8} (sum : total bytes % 256 = 0)
      (long : 5 ≤ bytes.length) (front : bytes = count :: others)
      (differs : count.toNat + 5 ≠ bytes.length) :
      SaidByBytes bytes (.error (.lengthMismatch count bytes.length))
  | whole {high low checksum : UInt8} {record : Record}
      (sum : total bytes % 256 = 0)
      (parts : bytes =
        record.byteCount :: high :: low :: record.recordType ::
          (record.payload ++ [checksum]))
      (address : record.address.toNat = 256 * high.toNat + low.toNat)
      (counted : record.byteCount.toNat = record.payload.length) :
      SaidByBytes bytes (.ok record)

/-- The outcome of a line. -/
inductive SaidBy (line : String) : Except RecordError Record → Prop where
  | unmarked (other : line.toList.head? ≠ some ':') :
      SaidBy line (.error .malformed)
  | foreign {before after : List Char} {character : Char}
      (text : line.toList = ':' :: (before ++ character :: after))
      (digits : ∀ digit ∈ before, Hex.Valued digit)
      (other : ¬Hex.Valued character) :
      SaidBy line (.error (.invalidHexDigit character))
  | unpaired {digits : List Char} (text : line.toList = ':' :: digits)
      (valued : ∀ digit ∈ digits, Hex.Valued digit)
      (odd : digits.length % 2 = 1) :
      SaidBy line (.error .malformed)
  | decoded {digits : List Char} {bytes : List UInt8}
      {outcome : Except RecordError Record} (text : line.toList = ':' :: digits)
      (spells : Hex.Spells digits bytes) (said : SaidByBytes bytes outcome) :
      SaidBy line outcome

/-! ### Bytes -/

theorem byteSum_toNat (bytes : List UInt8) :
    (byteSum bytes).toNat = total bytes % 256 := by
  induction bytes with
  | nil => rfl
  | cons byte later inductionHypothesis =>
      change (byte + byteSum later).toNat = (byte.toNat + total later) % 256
      rw [UInt8.toNat_add, inductionHypothesis]
      omega

theorem byteSum_eq (bytes : List UInt8) : byteSum bytes = UInt8.ofNat (total bytes) := by
  apply UInt8.toNat_inj.mp
  rw [byteSum_toNat, UInt8.toNat_ofNat']

theorem byteSum_eq_zero_iff {bytes : List UInt8} :
    byteSum bytes = 0 ↔ total bytes % 256 = 0 := by
  rw [← byteSum_toNat, ← UInt8.toNat_inj]
  rfl

variable {bytes : List UInt8} {line : String} {digits : List Char}
  {outcome : Except RecordError Record}

theorem ofBytes_of_short (sum : byteSum bytes = 0) (short : bytes.length < 5) :
    ofBytes bytes = .error (.tooShort bytes.length) := by
  unfold ofBytes
  rw [if_neg (not_not_intro sum)]
  split
  · simp only [List.length_cons] at short
    omega
  · rfl

theorem exists_frame (long : 5 ≤ bytes.length) :
    ∃ count high low recordType first later,
      bytes = count :: high :: low :: recordType :: first :: later := by
  rcases bytes with _ | ⟨count, _ | ⟨high, _ | ⟨low, _ | ⟨recordType, _ | ⟨first, later⟩⟩⟩⟩⟩
  · exact absurd long (by simp)
  · exact absurd long (by simp)
  · exact absurd long (by simp)
  · exact absurd long (by simp)
  · exact absurd long (by simp)
  · exact ⟨count, high, low, recordType, first, later, rfl⟩

theorem ofBytes_of_mismatch {count high low recordType first : UInt8}
    {later : List UInt8}
    (frame : bytes = count :: high :: low :: recordType :: first :: later)
    (sum : byteSum bytes = 0) (differs : count.toNat ≠ later.length) :
    ofBytes bytes = .error (.lengthMismatch count bytes.length) := by
  rw [frame] at sum ⊢
  unfold ofBytes
  rw [if_neg (not_not_intro sum)]
  exact dif_neg differs

/-- The frame of a record is its parts, and the last byte is the checksum. -/
theorem ofBytes_of_parts {record : Record} {high low checksum : UInt8}
    (parts : bytes = record.byteCount :: high :: low :: record.recordType ::
      (record.payload ++ [checksum]))
    (sum : byteSum bytes = 0)
    (address : record.address.toNat = 256 * high.toNat + low.toNat)
    (counted : record.byteCount.toNat = record.payload.length) :
    ofBytes bytes = .ok record := by
  obtain ⟨first, later, tail⟩ :=
    List.exists_cons_of_ne_nil (List.append_ne_nil_of_right_ne_nil record.payload
      (List.cons_ne_nil checksum []))
  have lengths := congrArg List.length tail
  simp only [List.length_append, List.length_cons, List.length_nil] at lengths
  have matched : record.byteCount.toNat = later.length := by omega
  have payload : (first :: later).dropLast = record.payload := by
    rw [← tail, List.dropLast_concat]
  have joined : Octets.join high low = record.address := by
    apply UInt16.toNat_inj.mp
    rw [Octets.join_toNat, address]
  rw [tail] at parts
  rw [parts] at sum ⊢
  unfold ofBytes
  rw [if_neg (not_not_intro sum)]
  simp only [dif_pos matched, payload, joined]

theorem SaidByBytes.ofBytes_eq (said : SaidByBytes bytes outcome) :
    ofBytes bytes = outcome := by
  cases said with
  | unbalanced sum =>
      have nonzero := mt byteSum_eq_zero_iff.mp sum
      unfold ofBytes
      rw [if_pos nonzero, byteSum_eq]
  | tooShort sum short => exact ofBytes_of_short (byteSum_eq_zero_iff.mpr sum) short
  | mismatch sum long front differs =>
      obtain ⟨count, high, low, recordType, first, later, frame⟩ := exists_frame long
      cases front.symm.trans frame
      refine ofBytes_of_mismatch frame (byteSum_eq_zero_iff.mpr sum) ?_
      intro counted
      rw [frame] at differs
      simp only [List.length_cons] at differs
      omega
  | whole sum parts address counted =>
      exact ofBytes_of_parts parts (byteSum_eq_zero_iff.mpr sum) address counted

theorem exists_saidByBytes (bytes : List UInt8) :
    ∃ outcome, SaidByBytes bytes outcome := by
  by_cases sum : total bytes % 256 = 0
  · by_cases short : bytes.length < 5
    · exact ⟨_, .tooShort sum short⟩
    · have long := Nat.le_of_not_lt short
      obtain ⟨count, high, low, recordType, first, later, frame⟩ := exists_frame long
      have lengths := congrArg List.length frame
      simp only [List.length_cons] at lengths
      by_cases counted : count.toNat + 5 = bytes.length
      · have bounded := count.toNat_lt
        have length : (first :: later).dropLast.length = count.toNat := by
          simp only [List.length_dropLast, List.length_cons]
          omega
        let record : Record :=
          { address := Octets.join high low
            recordType := recordType
            payload := (first :: later).dropLast
            payloadFits := by omega }
        have byteCount : record.byteCount = count := by
          change UInt8.ofNat (first :: later).dropLast.length = count
          rw [length, UInt8.ofNat_toNat]
        have parts : bytes = record.byteCount :: high :: low :: record.recordType ::
            (record.payload ++
              [(first :: later).getLast (List.cons_ne_nil first later)]) := by
          rw [byteCount, List.dropLast_concat_getLast]
          exact frame
        refine ⟨.ok record, .whole sum parts (Octets.join_toNat high low) ?_⟩
        rw [byteCount]
        exact length.symm
      · exact ⟨_, .mismatch sum long frame counted⟩
  · exact ⟨_, .unbalanced sum⟩

/-! ### Lines -/

variable {decode : List UInt8 → Option (List UInt8)}

theorem parseWith_of_marked (text : line.toList = ':' :: digits) :
    parseWith decode line =
      match decode (digits.flatMap String.utf8EncodeChar) with
      | some bytes => ofBytes bytes
      | none => .error (digitError digits) := by
  unfold parseWith
  rw [text]
  rfl

theorem parseWith_of_unpaired (lawful : Hex.Decodes decode)
    (text : line.toList = ':' :: digits)
    (unpaired : ¬(digits.length % 2 = 0 ∧ ∀ digit ∈ digits, Hex.Valued digit)) :
    parseWith decode line = .error (digitError digits) := by
  rw [parseWith_of_marked text]
  cases decoded : decode (digits.flatMap String.utf8EncodeChar) with
  | none => rfl
  | some bytes => exact absurd (lawful.paired decoded) unpaired

theorem digitError_of_foreign {before after : List Char} {character : Char}
    (digits : ∀ digit ∈ before, Hex.Valued digit) (other : ¬Hex.Valued character) :
    digitError (before ++ character :: after) = .invalidHexDigit character := by
  have found : (before ++ character :: after).find?
      (fun digit => !Hex.isDigit digit) = some character := by
    rw [List.find?_append, List.find?_eq_none.mpr, Option.none_or,
      List.find?_cons_of_pos]
    · simpa [Hex.isDigit_eq_false_iff] using other
    · simpa [Hex.isDigit_iff] using digits
  rw [digitError, found]

theorem digitError_of_digits (valued : ∀ digit ∈ digits, Hex.Valued digit) :
    digitError digits = .malformed := by
  have nothing : digits.find? (fun digit => !Hex.isDigit digit) = none := by
    apply List.find?_eq_none.mpr
    simpa [Hex.isDigit_iff] using valued
  rw [digitError, nothing]

theorem SaidBy.parseWith_eq (lawful : Hex.Decodes decode) (said : SaidBy line outcome) :
    parseWith decode line = outcome := by
  cases said with
  | unmarked other =>
      unfold parseWith
      split
      · rename_i digits text
        rw [text] at other
        exact absurd rfl other
      · rfl
  | foreign text digits other =>
      rw [parseWith_of_unpaired lawful text, digitError_of_foreign digits other]
      intro paired
      exact other (paired.2 _ List.mem_append_cons_self)
  | unpaired text valued odd =>
      rw [parseWith_of_unpaired lawful text, digitError_of_digits valued]
      intro paired
      omega
  | decoded text spells said =>
      rw [parseWith_of_marked text, lawful.of_spells spells]
      exact said.ofBytes_eq

/-- Every text has an outcome. -/
theorem exists_saidBy (line : String) : ∃ outcome, SaidBy line outcome := by
  by_cases marked : line.toList.head? = some ':'
  · obtain ⟨digits, text⟩ := List.head?_eq_some_iff.mp marked
    cases found : digits.find? (fun digit => !Hex.isDigit digit) with
    | some character =>
        obtain ⟨other, before, after, split, earlier⟩ :=
          List.find?_eq_some_iff_append.mp found
        rw [split] at text
        refine ⟨_, .foreign text ?_ ?_⟩
        · simpa [Hex.isDigit_iff] using earlier
        · simpa [Hex.isDigit_eq_false_iff] using other
    | none =>
        have valued : ∀ digit ∈ digits, Hex.Valued digit := by
          simpa [Hex.isDigit_iff] using List.find?_eq_none.mp found
        rcases Nat.mod_two_eq_zero_or_one digits.length with even | odd
        · obtain ⟨bytes, spells⟩ := Hex.exists_spells even valued
          obtain ⟨outcome, said⟩ := exists_saidByBytes bytes
          exact ⟨outcome, .decoded text spells said⟩
        · exact ⟨_, .unpaired text valued odd⟩
  · exact ⟨_, .unmarked marked⟩

theorem saidBy_of_parseWith (lawful : Hex.Decodes decode)
    (read : parseWith decode line = outcome) : SaidBy line outcome := by
  obtain ⟨other, said⟩ := exists_saidBy line
  rw [← read, said.parseWith_eq lawful]
  exact said

end Record

/-- With any decoder of hexadecimal text a line is read as what the grammar says
of it, and as nothing else. -/
theorem parse_eq_iff_saidBy (decode : List UInt8 → Option (List UInt8))
    (lawful : Hex.Decodes decode) (line : String)
    (outcome : Except RecordError Record) :
    Record.parseWith decode line = outcome ↔ Record.SaidBy line outcome := by
  constructor
  · intro read
    obtain ⟨other, said⟩ := Record.exists_saidBy line
    rw [← read, said.parseWith_eq lawful]
    exact said
  · intro said
    exact said.parseWith_eq lawful

/-- A character of two octets makes the number of octets even, and is still what
is reported.  A byte whose sum is wrong is not reported as too short. -/
theorem parse_eq_iff_saidBy_of_two_octet_character :
    Hex.Decodes Hex.decodeOctets? ∧
      Record.parse ":0200é00AABB99" = .error (.invalidHexDigit 'é') ∧
      Record.SaidBy ":01" (.error (.checksumMismatch 1)) := by
  have lawful := Hex.decodes_decodeOctets?
  have text : ":0200é00AABB99".toList =
      ':' :: (['0', '2', '0', '0'] ++ 'é' :: "00AABB99".toList) := by decide
  have digits : ∀ digit ∈ ['0', '2', '0', '0'], Hex.Valued digit := by
    simp only [← Hex.isDigit_iff]
    exact List.all_eq_true.mp rfl
  have foreign : Record.SaidBy ":0200é00AABB99" (.error (.invalidHexDigit 'é')) :=
    .foreign text digits (by decide)
  refine ⟨lawful, ?_, ?_⟩
  · exact (parse_eq_iff_saidBy Hex.decodeOctets? lawful _ _).mpr foreign
  · exact (parse_eq_iff_saidBy Hex.decodeOctets? lawful _ _).mp rfl

end FlashScript
