/-
Records and their lines.  A record is written as one line with capital digits,
and a line is read as a record exactly when its digits spell the bytes of that
record; so the two determine each other, the case of the digits left aside.
-/

import FlashScript.Proofs.Grammar

namespace FlashScript

namespace Record

variable {record : Record} {bytes : List UInt8} {line second : String}
  {decode : List UInt8 → Option (List UInt8)} {write : List UInt8 → List Char}

/-! ### The bytes of a record -/

theorem byteSum_append (front back : List UInt8) :
    byteSum (front ++ back) = byteSum front + byteSum back := by
  induction front with
  | nil => exact (UInt8.zero_add _).symm
  | cons byte later inductionHypothesis =>
      change byte + byteSum (later ++ back) = byte + byteSum later + byteSum back
      rw [inductionHypothesis, UInt8.add_assoc]

theorem byteSum_toBytes (record : Record) : byteSum record.toBytes = 0 := by
  rw [toBytes, byteSum_append]
  change byteSum record.body + (-byteSum record.body + 0) = 0
  rw [UInt8.add_zero, UInt8.add_right_neg]

/-- Only one last byte balances the bytes before it. -/
theorem eq_neg_of_byteSum_concat {front : List UInt8} {last : UInt8}
    (balanced : byteSum (front ++ [last]) = 0) : last = -byteSum front := by
  rw [byteSum_append] at balanced
  change byteSum front + (last + 0) = 0 at balanced
  rw [UInt8.add_zero] at balanced
  calc last = -byteSum front + byteSum front + last := by
        rw [UInt8.add_left_neg, UInt8.zero_add]
    _ = -byteSum front := by rw [UInt8.add_assoc, balanced, UInt8.add_zero]

theorem toNat_byteCount (record : Record) :
    record.byteCount.toNat = record.payload.length := by
  have fits := record.payloadFits
  simp only [byteCount, UInt8.toNat_ofNat']
  omega

theorem saidByBytes_toBytes (record : Record) :
    SaidByBytes record.toBytes (.ok record) := by
  have parts : record.toBytes = record.byteCount :: Octets.highByte record.address ::
      Octets.lowByte record.address :: record.recordType ::
        (record.payload ++ [-byteSum record.body]) := rfl
  exact .whole (byteSum_eq_zero_iff.mp record.byteSum_toBytes) parts
    (Octets.toNat_eq_halves record.address) record.toNat_byteCount

/-- The count, the halves of the address and the checksum leave no choice. -/
theorem SaidByBytes.eq_toBytes (said : SaidByBytes bytes (.ok record)) :
    bytes = record.toBytes := by
  cases said with
  | @whole high low checksum _ sum parts address counted =>
      have joined : record.address = Octets.join high low := by
        apply UInt16.toNat_inj.mp
        rw [address, Octets.join_toNat]
      have body : bytes = record.body ++ [checksum] := by
        rw [parts, Record.body, joined, Octets.big, Octets.highByte_join,
          Octets.lowByte_join]
        rfl
      rw [body] at sum ⊢
      rw [toBytes, eq_neg_of_byteSum_concat (byteSum_eq_zero_iff.mpr sum)]

/-! ### The line of a record -/

theorem parseWith_eq_ok_iff (lawful : Hex.Decodes decode) :
    parseWith decode line = .ok record ↔
      ∃ digits, line.toList = ':' :: digits ∧ Hex.Spells digits record.toBytes := by
  constructor
  · intro parsed
    cases saidBy_of_parseWith lawful parsed with
    | decoded text spells said =>
        rw [said.eq_toBytes] at spells
        exact ⟨_, text, spells⟩
  · rintro ⟨digits, text, spells⟩
    exact (SaidBy.decoded text spells record.saidByBytes_toBytes).parseWith_eq lawful

theorem toList_toUpper {digits : List Char} (text : line.toList = ':' :: digits) :
    line.toUpper.toList = ':' :: digits.map Char.toUpper := by
  rw [String.toUpper, String.toList_map, text]
  rfl

theorem parseWith_encodeWith (lawful : Hex.Decodes decode) (capital : Hex.Writes write)
    (record : Record) : parseWith decode (record.encodeWith write) = .ok record := by
  apply (parseWith_eq_ok_iff lawful).mpr
  refine ⟨write record.toBytes, ?_, capital.spells record.toBytes⟩
  rw [encodeWith, String.toList_ofList]

theorem encodeWith_of_parseWith (lawful : Hex.Decodes decode)
    (capital : Hex.Writes write) (parsed : parseWith decode line = .ok record) :
    record.encodeWith write = line.toUpper := by
  obtain ⟨digits, text, spells⟩ := (parseWith_eq_ok_iff lawful).mp parsed
  apply String.toList_inj.mp
  rw [toList_toUpper text, encodeWith, String.toList_ofList, capital.write_eq spells]

/-- A line in other letter case is the line of the same record. -/
theorem parseWith_of_toUpper_eq (lawful : Hex.Decodes decode)
    (parsed : parseWith decode line = .ok record) (same : second.toUpper = line.toUpper) :
    parseWith decode second = .ok record := by
  obtain ⟨digits, text, spells⟩ := (parseWith_eq_ok_iff lawful).mp parsed
  have letters := congrArg String.toList same
  rw [toList_toUpper text, String.toUpper, String.toList_map] at letters
  obtain ⟨mark, others, split, colon, capitals⟩ := List.map_eq_cons_iff.mp letters
  rw [Hex.eq_colon_of_toUpper colon] at split
  apply (parseWith_eq_ok_iff lawful).mpr
  refine ⟨others, split, ?_⟩
  rw [← Hex.spells_map_toUpper_iff, capitals, Hex.spells_map_toUpper_iff]
  exact spells

end Record

/-- What is written is read back, and what is read is written with capital
digits; so two lines are lines of one record if they differ in nothing but the
case of their digits. -/
theorem record_line_round_trip (decode : List UInt8 → Option (List UInt8))
    (write : List UInt8 → List Char) (lawful : Hex.Decodes decode)
    (capital : Hex.Writes write) :
    (∀ recordType address payload, payload.length ≤ 255 →
      ∃ record, Record.ofParts? recordType address payload = some record ∧
        record.recordType = recordType ∧ record.address = address ∧
        record.payload = payload ∧
        Record.parseWith decode (record.encodeWith write) = .ok record) ∧
      (∀ line record, Record.parseWith decode line = .ok record →
        record.encodeWith write = line.toUpper) ∧
      ∀ first second record other, Record.parseWith decode first = .ok record →
        Record.parseWith decode second = .ok other →
          (record = other ↔ first.toUpper = second.toUpper) := by
  refine ⟨?_, ?_, ?_⟩
  · intro recordType address payload fits
    exact ⟨_, dif_pos fits, rfl, rfl, rfl,
      Record.parseWith_encodeWith lawful capital _⟩
  · intro line record parsed
    exact Record.encodeWith_of_parseWith lawful capital parsed
  · intro first second record other parsed also
    constructor
    · rintro rfl
      rw [← Record.encodeWith_of_parseWith lawful capital parsed,
        Record.encodeWith_of_parseWith lawful capital also]
    · intro same
      have again := Record.parseWith_of_toUpper_eq lawful also same
      rw [parsed] at again
      exact Except.ok.inj again

/-- A line with small digits is that of the record whose line has capital ones. -/
theorem record_line_round_trip_of_small_digits :
    let record : Record :=
      { address := 0x0010
        recordType := 0
        payload := [0xFE, 0x2F, 0x12, 0x34]
        payloadFits := by decide }
    Hex.Decodes Hex.decodeOctets? ∧ Hex.Writes Hex.encode ∧
      Record.parse record.encode = .ok record ∧
      Record.parse ":04001000fe2f123479" = .ok record ∧
      record.encode = ":04001000FE2F123479" := by
  intro record
  have lawful := Hex.decodes_decodeOctets?
  have capital := Hex.writes_encode
  have small : Record.parse ":04001000fe2f123479" = .ok record := rfl
  have letters : ":04001000fe2f123479".toUpper = ":04001000FE2F123479" := by
    apply String.toList_inj.mp
    rw [String.toUpper, String.toList_map]
    decide
  obtain ⟨readBack, writtenBack, _⟩ :=
    record_line_round_trip Hex.decodeOctets? Hex.encode lawful capital
  obtain ⟨again, made, _, _, _, read⟩ :=
    readBack 0 0x0010 [0xFE, 0x2F, 0x12, 0x34] (by decide)
  cases made.symm.trans (dif_pos (by decide))
  exact ⟨lawful, capital, read, small, (writtenBack _ record small).trans letters⟩

end FlashScript
