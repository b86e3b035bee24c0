/-
Data records that follow each other without a gap.  The second one asks for no
skip and for no entry, so that one record with the words of both does the same
with one count byte less.  What comes after a record is read from the address
reached and the half selected, and both are the same after either text.
-/

import FlashScript.Proofs.Canonical
import FlashScript.Proofs.RoundTrip

namespace FlashScript

/-! ### Runs that touch -/

theorem Word.length_flatMap_toBytes (words : List Word) :
    (words.flatMap toBytes).length = 2 * words.length := by
  induction words with
  | nil => rfl
  | cons word later inductionHypothesis =>
      rw [List.flatMap_cons, List.length_append, inductionHypothesis,
        List.length_cons, Nat.mul_succ, Nat.add_comm]
      rfl

namespace DataRun

open Instruction (totalLength)

variable {geometry : Geometry} {address : Nat} {run first second : DataRun}

/-- The words of two runs from the address of the first one on. -/
def join (first second : DataRun) : DataRun :=
  { address := first.address
    words := first.words ++ second.words }

theorem limit_join (touching : second.address = first.limit) :
    (first.join second).limit = second.limit := by
  rw [limit, limit, touching, limit, join, List.length_append, Nat.add_assoc]

theorem consecutive_join (touching : second.address = first.limit) :
    Store.consecutive (first.join second).address (first.join second).words =
      Store.consecutive first.address first.words ++
        Store.consecutive second.address second.words := by
  rw [touching]
  exact Store.consecutive_append first.address first.words second.words

/-- One write holds the words of a run that is neither empty nor too long. -/
theorem totalLength_burst (filled : 0 < run.words.length)
    (short : run.words.length ≤ Instruction.maxWords) :
    totalLength (run.burst geometry address).instructions =
      (if run.entersFrom geometry address then 2 else 0) +
        2 * (((run.burst geometry address).gap + 254) / 255) +
        (1 + 2 * run.words.length) := by
  have length : (run.burst geometry address).words.length = 2 * run.words.length :=
    Word.length_flatMap_toBytes run.words
  have one : (2 * run.words.length + 509) / 510 = 1 := by
    simp only [Instruction.maxWords] at short
    omega
  rw [Burst.totalLength_instructions, length, one]
  rfl

theorem totalLength_burst_of_touching (touching : second.address = first.limit)
    (filled : 0 < second.words.length)
    (short : second.words.length ≤ Instruction.maxWords) :
    totalLength (second.burst geometry first.limit).instructions =
      1 + 2 * second.words.length := by
  have stays : second.entersFrom geometry first.limit = false := by
    rw [entersFrom, touching, decide_eq_false_iff_not]
    omega
  have gap : (second.burst geometry first.limit).gap = 0 := by
    rw [burst, stays, touching]
    exact Nat.sub_self first.limit
  rw [totalLength_burst filled short, stays, gap, if_neg Bool.false_ne_true]
  omega

/-- The count byte of the second write is all that joining saves. -/
theorem totalLength_program_join (touching : second.address = first.limit)
    (firstFilled : 0 < first.words.length) (secondFilled : 0 < second.words.length)
    (short : first.words.length + second.words.length ≤ Instruction.maxWords)
    (later : List DataRun) :
    totalLength (program geometry address (first :: second :: later)) =
      totalLength (program geometry address (first.join second :: later)) + 1 := by
  have length : (first.join second).words.length =
      first.words.length + second.words.length := List.length_append
  have own : totalLength (first.burst geometry address).instructions = _ :=
    totalLength_burst firstFilled (by omega)
  have next : totalLength (second.burst geometry first.limit).instructions = _ :=
    totalLength_burst_of_touching touching secondFilled (by omega)
  have both : totalLength ((first.join second).burst geometry address).instructions =
      _ := totalLength_burst (by omega) (by omega)
  have enters : (first.join second).entersFrom geometry address =
      first.entersFrom geometry address := rfl
  have gap : ((first.join second).burst geometry address).gap =
      (first.burst geometry address).gap := rfl
  rw [enters, gap, length] at both
  simp only [program, Instruction.totalLength_append, own, next, both,
    limit_join touching]
  omega

end DataRun

/-! ### Texts that end alike -/

namespace Firmware

variable {geometry : Geometry} {earlier others : List Record}
  {record first second merged : Record} {line : String}

/-- Earlier records that nothing after them tells apart. -/
structure Alike (earlier others : List Record) : Prop where
  reached : reached earlier = reached others
  extension : extension earlier = extension others

theorem Alike.effectiveAddress (alike : Alike earlier others) (record : Record) :
    effectiveAddress earlier record = effectiveAddress others record := by
  rw [Firmware.effectiveAddress, Firmware.effectiveAddress, alike.extension]

theorem Alike.runOf (alike : Alike earlier others) (record : Record) :
    runOf earlier record = runOf others record := by
  rw [Firmware.runOf, Firmware.runOf, alike.effectiveAddress]

theorem Alike.concat (alike : Alike earlier others) (record : Record) :
    Alike (earlier ++ [record]) (others ++ [record]) where
  reached := by
    by_cases data : record.recordType = 0
    · rw [reached_append_data data, reached_append_data data, alike.runOf]
    · rw [reached_append_other data, reached_append_other data, alike.reached]
  extension := by
    by_cases extended : record.recordType = 4
    · rw [extension_append_extended extended, extension_append_extended extended]
    · rw [extension_append_other extended, extension_append_other extended,
        alike.extension]

theorem Alike.append (alike : Alike earlier others) (later : List Record) :
    Alike (earlier ++ later) (others ++ later) := by
  induction later generalizing earlier others with
  | nil =>
      rw [List.append_nil, List.append_nil]
      exact alike
  | cons record rest inductionHypothesis =>
      rw [List.append_cons earlier, List.append_cons others]
      exact inductionHypothesis (alike.concat record)

theorem Alike.dataRunsAfter (alike : Alike earlier others) (later : List Record) :
    dataRunsAfter earlier later = dataRunsAfter others later := by
  induction later generalizing earlier others with
  | nil => rfl
  | cons record rest inductionHypothesis =>
      rw [Firmware.dataRunsAfter, Firmware.dataRunsAfter,
        inductionHypothesis (alike.concat record), alike.effectiveAddress]

theorem Alike.lineFault (alike : Alike earlier others) (line : String) :
    lineFault geometry earlier line = lineFault geometry others line := by
  simp only [Firmware.lineFault, recordFault, dataFault, alike.effectiveAddress,
    alike.reached]

theorem Alike.legalAfter {before another lines : List String}
    (alike : Alike (records before) (records another))
    (legal : LegalAfter geometry before lines) :
    LegalAfter geometry another lines := by
  intro front line back split
  have faultless := legal front line back split
  rw [records_append] at faultless ⊢
  rw [← (alike.append (records front)).lineFault]
  exact faultless

theorem legalAfter_append {before lines later : List String} :
    LegalAfter geometry before (lines ++ later) ↔
      LegalAfter geometry before lines ∧ LegalAfter geometry (before ++ lines) later := by
  induction lines generalizing before with
  | nil =>
      rw [List.nil_append, List.append_nil]
      exact (and_iff_right (legalAfter_nil geometry before)).symm
  | cons line rest inductionHypothesis =>
      rw [List.cons_append, legalAfter_cons, legalAfter_cons, inductionHypothesis,
        and_assoc, List.append_cons before line rest]

theorem lineFault_of_data (parsed : Record.parse line = .ok record)
    (data : record.recordType = 0) :
    lineFault geometry earlier line =
      (dataFault geometry earlier record).map .placement := by
  simp only [Firmware.lineFault, Compilation.isEmpty_of_parse parsed, parsed,
    if_neg Bool.false_ne_true, recordFault, if_pos data]

/-- A record is faultless once it passes each of the checks. -/
theorem dataFault_eq_none_iff :
    dataFault geometry earlier record = none ↔
      ¬record.address.toNat % 2 = 1 ∧
        ¬geometry.spaceLimit ≤ effectiveAddress earlier record ∧
        ¬(geometry.programLimit ≤ effectiveAddress earlier record ∧
          effectiveAddress earlier record < geometry.configStart) ∧
        ¬effectiveAddress earlier record < reached earlier ∧
        ¬record.payload.length < 2 := by
  have passes {check : Prop} [Decidable check] {error : PlacementError}
      {others : Option PlacementError} :
      (if check then some error else others) = none ↔ ¬check ∧ others = none := by
    by_cases fails : check
    · rw [if_pos fails]
      exact iff_of_false nofun (fun both => both.1 fails)
    · rw [if_neg fails]
      exact (and_iff_right fails).symm
  simp only [dataFault, passes, and_true]

theorem filled_of_dataFault (faultless : dataFault geometry earlier record = none) :
    2 ≤ record.payload.length := by
  obtain ⟨_, _, _, _, filled⟩ := dataFault_eq_none_iff.mp faultless
  exact Nat.le_of_not_lt filled

/-- More words at the end of a record are no fault of it. -/
theorem dataFault_of_longer (address : merged.address = record.address)
    (longer : record.payload.length ≤ merged.payload.length)
    (faultless : dataFault geometry earlier record = none) :
    dataFault geometry earlier merged = none := by
  have same : effectiveAddress earlier merged = effectiveAddress earlier record := by
    rw [effectiveAddress, effectiveAddress, address]
  rw [dataFault_eq_none_iff] at faultless ⊢
  obtain ⟨aligned, inSpace, inRegion, forward, filled⟩ := faultless
  rw [address, same]
  exact ⟨aligned, inSpace, inRegion, forward, by omega⟩

/-! ### Merging two records -/

/-- One record with the words of two data records, the second of which begins
where the first one ends. -/
structure Merges (first second merged : Record) : Prop where
  firstData : first.recordType = 0
  secondData : second.recordType = 0
  even : first.payload.length % 2 = 0
  contiguous : second.address.toNat / 2 =
    first.address.toNat / 2 + first.payload.length / 2
  data : merged.recordType = 0
  address : merged.address = first.address
  payload : merged.payload = first.payload ++ second.payload

variable (earlier) in
theorem Merges.touching (merges : Merges first second merged) :
    (runOf (earlier ++ [first]) second).address = (runOf earlier first).limit := by
  have other : first.recordType ≠ 4 := by
    rw [merges.firstData]
    decide
  have contiguous := merges.contiguous
  rw [limit_runOf]
  simp only [runOf, effectiveAddress, extension_append_other other]
  omega

variable (earlier) in
theorem Merges.runOf_eq (merges : Merges first second merged) :
    runOf earlier merged =
      (runOf earlier first).join (runOf (earlier ++ [first]) second) := by
  simp only [Firmware.runOf, effectiveAddress, DataRun.join, merges.address,
    merges.payload, Word.ofBytes_append merges.even]

variable (earlier) in
theorem Merges.alike (merges : Merges first second merged) :
    Alike (earlier ++ [first] ++ [second]) (earlier ++ [merged]) where
  reached := by
    rw [reached_append_data merges.secondData, reached_append_data merges.data,
      merges.runOf_eq earlier, DataRun.limit_join (merges.touching earlier)]
  extension := by
    have firstOther : first.recordType ≠ 4 := by
      rw [merges.firstData]
      decide
    have secondOther : second.recordType ≠ 4 := by
      rw [merges.secondData]
      decide
    have other : merged.recordType ≠ 4 := by
      rw [merges.data]
      decide
    rw [extension_append_other secondOther, extension_append_other firstOther,
      extension_append_other other]

theorem Merges.exists_dataRuns (merges : Merges first second merged)
    (earlier later : List Record) :
    ∃ before after,
      dataRuns (earlier ++ [first] ++ [second] ++ later) =
        before ++ Firmware.runOf earlier first ::
          Firmware.runOf (earlier ++ [first]) second :: after ∧
      dataRuns (earlier ++ [merged] ++ later) =
        before ++ Firmware.runOf earlier merged :: after := by
  refine ⟨Firmware.dataRuns earlier,
    Firmware.dataRunsAfter (earlier ++ [merged]) later, ?_, ?_⟩
  · rw [Firmware.dataRuns, dataRunsAfter_append, ← Firmware.dataRuns, List.nil_append,
      dataRuns_append_data merges.secondData, dataRuns_append_data merges.firstData,
      (merges.alike earlier).dataRunsAfter, List.append_assoc, List.append_assoc]
    rfl
  · rw [Firmware.dataRuns, dataRunsAfter_append, ← Firmware.dataRuns, List.nil_append,
      dataRuns_append_data merges.data, List.append_assoc]
    rfl

theorem Merges.stores_eq (merges : Merges first second merged)
    (earlier later : List Record) :
    stores (dataRuns (earlier ++ [first] ++ [second] ++ later)) =
      stores (dataRuns (earlier ++ [merged] ++ later)) := by
  obtain ⟨before, after, apart, together⟩ := merges.exists_dataRuns earlier later
  rw [apart, together, merges.runOf_eq earlier, stores_append, stores_append]
  simp only [Firmware.stores, List.flatMap_cons, List.append_assoc,
    DataRun.consecutive_join (merges.touching earlier)]

theorem Merges.reached_eq (merges : Merges first second merged)
    (earlier later : List Record) :
    reached (earlier ++ [first] ++ [second] ++ later) =
      reached (earlier ++ [merged] ++ later) :=
  ((merges.alike earlier).append later).reached

/-- Merging saves one byte wherever both records have a word. -/
theorem Merges.totalLength_program (merges : Merges first second merged)
    (firstFilled : 2 ≤ first.payload.length) (secondFilled : 2 ≤ second.payload.length)
    (geometry : Geometry) (earlier later : List Record) :
    Instruction.totalLength
        (DataRun.program geometry 0
          (dataRuns (earlier ++ [first] ++ [second] ++ later))) =
      Instruction.totalLength
        (DataRun.program geometry 0 (dataRuns (earlier ++ [merged] ++ later))) + 1 := by
  obtain ⟨before, after, apart, together⟩ := merges.exists_dataRuns earlier later
  have firstLength : (Firmware.runOf earlier first).words.length =
      first.payload.length / 2 := Word.length_ofBytes first.payload
  have secondLength : (Firmware.runOf (earlier ++ [first]) second).words.length =
      second.payload.length / 2 := Word.length_ofBytes second.payload
  have fits := merged.payloadFits
  rw [merges.payload, List.length_append] at fits
  have short : (Firmware.runOf earlier first).words.length +
      (Firmware.runOf (earlier ++ [first]) second).words.length ≤
        Instruction.maxWords := by
    rw [firstLength, secondLength, Instruction.maxWords]
    omega
  rw [apart, together, merges.runOf_eq earlier, DataRun.program_append,
    DataRun.program_append, Instruction.totalLength_append,
    Instruction.totalLength_append,
    DataRun.totalLength_program_join (merges.touching earlier) (by omega) (by omega) short]
  rfl

end Firmware

namespace Compilation

open Firmware (Merges LegalAfter dataRuns records)

variable {device : Device} {before after : List String} {first second line : String}
  {record next merged : Record} {script shorter : Script}

theorem records_append_cons (parsed : Record.parse line = .ok record) :
    records (before ++ line :: after) =
      records before ++ [record] ++ records after := by
  rw [List.append_cons, Firmware.records_append, Firmware.records_append_ok parsed]

theorem records_append_pair (parsed : Record.parse first = .ok record)
    (also : Record.parse second = .ok next) :
    records (before ++ first :: second :: after) =
      records before ++ [record] ++ [next] ++ records after := by
  rw [List.append_cons, records_append_cons also, Firmware.records_append_ok parsed]

section Merged

variable (merges : Merges record next merged) (parsed : Record.parse first = .ok record)
  (also : Record.parse second = .ok next) (read : Record.parse line = .ok merged)
  (legal : LegalAfter device.geometry [] (before ++ first :: second :: after))

include merges parsed also legal

/-- Neither record has a fault, and the lines after them have none. -/
theorem faultless_of_legal :
    LegalAfter device.geometry [] before ∧
      Firmware.dataFault device.geometry (records before) record = none ∧
      Firmware.dataFault device.geometry (records before ++ [record]) next = none ∧
      LegalAfter device.geometry (before ++ [first] ++ [second]) after := by
  rw [Firmware.legalAfter_append, List.nil_append, Firmware.legalAfter_cons,
    Firmware.legalAfter_cons, Firmware.records_append_ok parsed,
    Firmware.lineFault_of_data parsed merges.firstData, Option.map_eq_none_iff,
    Firmware.lineFault_of_data also merges.secondData, Option.map_eq_none_iff] at legal
  exact legal

include read in
/-- A text stays legal when two of its lines become one. -/
theorem legal_of_merges :
    LegalAfter device.geometry [] (before ++ line :: after) := by
  obtain ⟨front, own, _, rest⟩ := faultless_of_legal merges parsed also legal
  have alike : Firmware.Alike (records (before ++ [first] ++ [second]))
      (records (before ++ [line])) := by
    rw [Firmware.records_append_ok also, Firmware.records_append_ok parsed,
      Firmware.records_append_ok read]
    exact merges.alike (records before)
  rw [Firmware.legalAfter_append, List.nil_append, Firmware.legalAfter_cons,
    Firmware.lineFault_of_data read merges.data, Option.map_eq_none_iff]
  refine ⟨front, Firmware.dataFault_of_longer merges.address ?_ own,
    alike.legalAfter rest⟩
  rw [merges.payload, List.length_append]
  exact Nat.le_add_right _ _

end Merged

/-- One write the less, and nothing else is different. -/
theorem compile_of_merges (merges : Merges record next merged)
    (parsed : Record.parse first = .ok record) (also : Record.parse second = .ok next)
    (read : Record.parse line = .ok merged)
    (compiled : compile device (before ++ first :: second :: after) = .ok script) :
    ∃ shorter, compile device (before ++ line :: after) = .ok shorter ∧
      shorter.size + 1 = script.size ∧
      Loader.run device.geometry.configStart shorter.listing.instructions =
        Loader.run device.geometry.configStart script.listing.instructions := by
  have legal := legal_of_compile compiled
  obtain ⟨_, own, following, _⟩ := faultless_of_legal merges parsed also legal
  obtain ⟨shorter, recompiled⟩ := compile_ok_iff.mpr
    (Firmware.firstFaultAfter_eq_none_iff.mpr (legal_of_merges merges parsed also read legal))
  refine ⟨shorter, recompiled, ?_, ?_⟩
  · rw [size_of_compile compiled, size_of_compile recompiled,
      records_append_pair parsed also, records_append_cons read,
      merges.totalLength_program (Firmware.filled_of_dataFault own)
        (Firmware.filled_of_dataFault following)]
    rfl
  · rw [trace_of_compile compiled, trace_of_compile recompiled,
      records_append_pair parsed also, records_append_cons read, merges.stores_eq,
      merges.reached_eq]

end Compilation

/-- Two data records of which the second begins where the first one ends can be
one record: the text with one line in their place compiles too, to a script with
one byte less that has the loader do exactly the same. -/
theorem merging_records_saves_one_byte (device : Device) (before after : List String)
    (first second : String) (record next : Record) (script : Script)
    (compiled :
      Compilation.compile device (before ++ first :: second :: after) = .ok script)
    (parsed : Record.parse first = .ok record) (also : Record.parse second = .ok next)
    (data : record.recordType = 0) (alsoData : next.recordType = 0)
    (even : record.payload.length % 2 = 0)
    (contiguous : next.address.toNat / 2 =
      record.address.toNat / 2 + record.payload.length / 2)
    (fits : record.payload.length + next.payload.length ≤ 255) :
    ∃ merged shorter,
      Record.ofParts? 0 record.address (record.payload ++ next.payload) =
          some merged ∧
        Compilation.compile device (before ++ merged.encode :: after) = .ok shorter ∧
        shorter.size + 1 = script.size ∧
        script.listing.truncatedAt = none ∧ shorter.listing.truncatedAt = none ∧
        Loader.run device.geometry.configStart shorter.listing.instructions =
          Loader.run device.geometry.configStart script.listing.instructions := by
  have short : (record.payload ++ next.payload).length ≤ 255 := by
    rw [List.length_append]
    exact fits
  let merged : Record :=
    { address := record.address
      recordType := 0
      payload := record.payload ++ next.payload
      payloadFits := short }
  have merges : Firmware.Merges record next merged :=
    { firstData := data
      secondData := alsoData
      even := even
      contiguous := contiguous
      data := rfl
      address := rfl
      payload := rfl }
  have read : Record.parse merged.encode = .ok merged :=
    Record.parseWith_encodeWith Hex.decodes_decodeOctets? Hex.writes_encode merged
  obtain ⟨shorter, recompiled, size, trace⟩ :=
    Compilation.compile_of_merges merges parsed also read compiled
  obtain ⟨_, _, _, _, _, whole⟩ := Compilation.compile_simulates compiled
  obtain ⟨_, _, _, _, _, wholeToo⟩ := Compilation.compile_simulates recompiled
  exact ⟨merged, shorter, dif_pos short, recompiled, size, whole, wholeToo, trace⟩

/-- The first two records of the config region, the second one with a byte too
many, before a third one behind a gap. -/
theorem merging_records_saves_one_byte_in_config_region :
    let before := [":020000040001F9"]
    let after := [":02000E00FF3FB2", ":00000001FF"]
    ∃ script shorter,
      Compilation.compile .pic16f1847
          (before ++ ":02000000AABB99" :: ":03000200CCDD0E44" :: after) = .ok script ∧
        Compilation.compile .pic16f1847
          (before ++ ":05000000AABBCCDD0EDF" :: after) = .ok shorter ∧
        shorter.size + 1 = script.size ∧
        Loader.run 0x8000 shorter.listing.instructions =
          Loader.run 0x8000 script.listing.instructions := by
  intro before after
  obtain ⟨script, compiled⟩ := Compilation.compile_ok_iff.mpr
    (by decide : Firmware.firstFault Device.pic16f1847.geometry
      (before ++ ":02000000AABB99" :: ":03000200CCDD0E44" :: after) = none)
  obtain ⟨merged, shorter, made, recompiled, size, _, _, trace⟩ :=
    merging_records_saves_one_byte .pic16f1847 before after ":02000000AABB99"
      ":03000200CCDD0E44"
      { address := 0
        recordType := 0
        payload := [0xAA, 0xBB]
        payloadFits := by decide }
      { address := 2
        recordType := 0
        payload := [0xCC, 0xDD, 0x0E]
        payloadFits := by decide }
      script compiled rfl rfl rfl rfl rfl rfl (by decide)
  cases made.symm.trans (dif_pos (by decide))
  exact ⟨script, shorter, compiled, recompiled, size, trace⟩

end FlashScript
