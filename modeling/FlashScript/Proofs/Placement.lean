/-
Everything that placing one record can do, said once.  A data record becomes a
burst, another record of a known kind changes no address, and a refusal leaves
the cursor where it was unless it is that of an empty record at the config
region.
-/

import FlashScript.Proofs.Execution
import FlashScript.Proofs.History

namespace FlashScript.Cursor

variable {geometry : Geometry} {cursor next : Cursor} {record : Record}

/-! ### Arriving at an address -/

theorem entersConfig_iff {address : Nat} :
    cursor.entersConfig geometry address = true ↔
      geometry.configStart ≤ address ∧ cursor.address < geometry.configStart := by
  simp only [entersConfig, decide_eq_true_eq]

theorem entersConfig_eq_false_iff {address : Nat} :
    cursor.entersConfig geometry address = false ↔
      ¬(geometry.configStart ≤ address ∧ cursor.address < geometry.configStart) := by
  simp only [entersConfig, decide_eq_false_iff_not]

theorem arrive_of_enters {address : Nat}
    (enters : cursor.entersConfig geometry address = true) :
    cursor.arrive geometry address =
      { cursor with address := geometry.configStart } :=
  if_pos enters

theorem arrive_of_stays {address : Nat}
    (stays : cursor.entersConfig geometry address = false) :
    cursor.arrive geometry address = cursor := by
  rw [arrive, stays, if_neg Bool.false_ne_true]

/-- Arriving in the config region never passes the address asked for. -/
theorem lt_address_arrive_iff {address : Nat} :
    address < (cursor.arrive geometry address).address ↔
      address < cursor.address := by
  cases enters : cursor.entersConfig geometry address with
  | true =>
      obtain ⟨inConfig, below⟩ := entersConfig_iff.mp enters
      rw [arrive_of_enters enters]
      constructor
      · intro behind
        exact absurd inConfig (Nat.not_le_of_lt behind)
      · intro behind
        exact absurd inConfig (Nat.not_le_of_lt (Nat.lt_trans behind below))
  | false => rw [arrive_of_stays enters]

theorem arrive_of_lt {address : Nat} (behind : address < cursor.address) :
    cursor.arrive geometry address = cursor := by
  apply arrive_of_stays
  apply entersConfig_eq_false_iff.mpr
  omega

/-! ### Data records -/

/-- The burst of a data record that is not refused. -/
def burstOf (geometry : Geometry) (cursor : Cursor) (record : Record) : Burst :=
  { entersConfig := cursor.entersConfig geometry (cursor.target record)
    gap := cursor.target record -
      (cursor.arrive geometry (cursor.target record)).address
    words := wholeWords record.payload }

def advance (cursor : Cursor) (record : Record) : Cursor :=
  { cursor with address := cursor.target record + record.payload.length / 2 }

/-- Only a data record without a word is refused after the cursor has moved. -/
theorem placeData_eq (geometry : Geometry) (cursor : Cursor) (record : Record) :
    cursor.placeData geometry record =
      if record.address.toNat % 2 = 1 then
        (cursor, .error (.misaligned record.address.toNat))
      else if geometry.spaceLimit ≤ cursor.target record then
        (cursor, .error (.outOfRange (cursor.target record)))
      else if geometry.programLimit ≤ cursor.target record ∧
          cursor.target record < geometry.configStart then
        (cursor, .error (.outOfProgramMemory (cursor.target record)))
      else if cursor.target record < cursor.address then
        (cursor, .error (.nonMonotonic (cursor.target record) cursor.address))
      else if record.payload.length < 2 then
        (cursor.arrive geometry (cursor.target record), .error .emptyData)
      else (cursor.advance record, .ok (cursor.burstOf geometry record)) := by
  unfold placeData
  simp only [lt_address_arrive_iff]
  split
  · rfl
  · split
    · rfl
    · split
      · rfl
      · split
        · rename_i behind
          rw [arrive_of_lt behind]
        · split
          · rfl
          · have advanced :
                { cursor.arrive geometry (cursor.target record) with
                  address := cursor.target record + record.payload.length / 2 } =
                  cursor.advance record := by
              unfold arrive advance
              split <;> rfl
            rw [advanced]
            rfl

/-- What a data record meets that becomes a burst. -/
structure Admits (geometry : Geometry) (cursor : Cursor) (record : Record) :
    Prop where
  data : record.recordType = 0
  aligned : record.address.toNat % 2 = 0
  inSpace : cursor.target record < geometry.spaceLimit
  inRegion : cursor.target record < geometry.programLimit ∨
    geometry.configStart ≤ cursor.target record
  forward : cursor.address ≤ cursor.target record
  filled : 2 ≤ record.payload.length

theorem placeData_of_admits (admits : Admits geometry cursor record) :
    cursor.placeData geometry record =
      (cursor.advance record, .ok (cursor.burstOf geometry record)) := by
  have inRegion := admits.inRegion
  rw [placeData_eq, if_neg (by rw [admits.aligned]; decide),
    if_neg (Nat.not_le_of_lt admits.inSpace), if_neg (by omega),
    if_neg (Nat.not_lt_of_le admits.forward),
    if_neg (Nat.not_lt_of_le admits.filled)]

/-! ### Any record -/

theorem place_data (data : record.recordType = 0) :
    cursor.place geometry record =
      ((cursor.placeData geometry record).1,
        (cursor.placeData geometry record).2.map some) := by
  have kind : record.kind? = some .data := by
    rw [Record.kind?, if_pos data]
  simp only [place, kind]

theorem place_endOfFile (endOfFile : record.recordType = 1) :
    cursor.place geometry record = (cursor, .ok none) := by
  have kind : record.kind? = some .endOfFile := by
    rw [Record.kind?, if_neg (by rw [endOfFile]; decide), if_pos endOfFile]
  simp only [place, kind]

theorem place_extended (extended : record.recordType = 4) :
    cursor.place geometry record =
      match cursor.selectHalf record with
      | .ok next => (next, .ok none)
      | .error error => (cursor, .error error) := by
  have kind : record.kind? = some .extendedLinearAddress := by
    rw [Record.kind?, if_neg (by rw [extended]; decide),
      if_neg (by rw [extended]; decide), if_pos extended]
  cases came : cursor.selectHalf record <;> simp only [place, kind, came]

theorem place_unsupported (data : record.recordType ≠ 0)
    (endOfFile : record.recordType ≠ 1) (extended : record.recordType ≠ 4) :
    cursor.place geometry record =
      (cursor, .error (.unsupportedRecordType record.recordType)) := by
  have kind : record.kind? = none := by
    rw [Record.kind?, if_neg data, if_neg endOfFile, if_neg extended]
  simp only [place, kind]

theorem place_of_admits (admits : Admits geometry cursor record) :
    cursor.place geometry record =
      (cursor.advance record, .ok (some (cursor.burstOf geometry record))) := by
  rw [place_data admits.data, placeData_of_admits admits]
  rfl

/-- The cursor after a record and what came of it, for every way it can go. -/
inductive Outcome (geometry : Geometry) (cursor : Cursor) (record : Record) :
    Cursor → Except PlacementError (Option Burst) → Prop where
  | admitted (admits : Admits geometry cursor record) :
      Outcome geometry cursor record (cursor.advance record)
        (.ok (some (cursor.burstOf geometry record)))
  | ended (endOfFile : record.recordType = 1) :
      Outcome geometry cursor record cursor (.ok none)
  | selected {next : Cursor} (extended : record.recordType = 4)
      (still : next.address = cursor.address)
      (half : next.base = halfSize * (record.payload.getLastD 0).toNat) :
      Outcome geometry cursor record next (.ok none)
  | refused {error : PlacementError} (filled : error ≠ .emptyData) :
      Outcome geometry cursor record cursor (.error error)
  | empty :
      Outcome geometry cursor record
        (cursor.arrive geometry (cursor.target record)) (.error .emptyData)

theorem placeData_outcome (data : record.recordType = 0) :
    Outcome geometry cursor record (cursor.placeData geometry record).1
      ((cursor.placeData geometry record).2.map some) := by
  rw [placeData_eq]
  split
  · exact .refused nofun
  · rename_i aligned
    split
    · exact .refused nofun
    · rename_i inSpace
      split
      · exact .refused nofun
      · rename_i inRegion
        split
        · exact .refused nofun
        · rename_i forward
          split
          · exact .empty
          · rename_i filled
            exact .admitted
              { data := data
                aligned := by omega
                inSpace := Nat.lt_of_not_le inSpace
                inRegion := by omega
                forward := Nat.le_of_not_lt forward
                filled := Nat.le_of_not_lt filled }

theorem selectHalf_ok (selected : cursor.selectHalf record = .ok next) :
    next.address = cursor.address ∧
      next.base = halfSize * (record.payload.getLastD 0).toNat := by
  unfold selectHalf at selected
  split at selected
  · cases selected
  · split at selected
    · rename_i payload
      cases selected
      rw [payload]
      exact ⟨rfl, rfl⟩
    · rename_i payload
      cases selected
      rw [payload]
      exact ⟨rfl, rfl⟩
    · cases selected

theorem selectHalf_error {error : PlacementError}
    (refused : cursor.selectHalf record = .error error) : error ≠ .emptyData := by
  unfold selectHalf at refused
  split at refused
  · cases refused
    exact nofun
  · split at refused
    · cases refused
    · cases refused
    · cases refused
      exact nofun

theorem place_outcome (geometry : Geometry) (cursor : Cursor) (record : Record) :
    Outcome geometry cursor record (cursor.place geometry record).1
      (cursor.place geometry record).2 := by
  by_cases data : record.recordType = 0
  · rw [place_data data]
    exact placeData_outcome data
  · by_cases endOfFile : record.recordType = 1
    · rw [place_endOfFile endOfFile]
      exact .ended endOfFile
    · by_cases extended : record.recordType = 4
      · rw [place_extended extended]
        cases came : cursor.selectHalf record with
        | error error => exact .refused (selectHalf_error came)
        | ok next =>
            obtain ⟨still, half⟩ := selectHalf_ok came
            exact .selected extended still half
      · rw [place_unsupported data endOfFile extended]
        exact .refused nofun

/-- The cursor never goes back, whatever comes of a record. -/
theorem Outcome.address_le {outcome : Except PlacementError (Option Burst)}
    (came : Outcome geometry cursor record next outcome) :
    cursor.address ≤ next.address := by
  cases came with
  | admitted admits =>
      have forward := admits.forward
      simp only [advance]
      omega
  | ended endOfFile => exact Nat.le_refl cursor.address
  | selected extended still half => exact Nat.le_of_eq still.symm
  | refused => exact Nat.le_refl cursor.address
  | empty =>
      cases enters : cursor.entersConfig geometry (cursor.target record) with
      | true =>
          rw [arrive_of_enters enters]
          exact Nat.le_of_lt (entersConfig_iff.mp enters).2
      | false =>
          have still := congrArg Cursor.address (arrive_of_stays enters)
          exact Nat.le_of_eq still.symm

/-! ### The burst of a record that is admitted -/

theorem length_words_burstOf :
    (cursor.burstOf geometry record).words.length =
      2 * (record.payload.length / 2) :=
  length_wholeWords record.payload

theorem origin_burstOf :
    (cursor.burstOf geometry record).origin geometry.configStart cursor.address =
      (cursor.arrive geometry (cursor.target record)).address := by
  unfold Burst.origin
  by_cases enters : (cursor.burstOf geometry record).entersConfig = true
  · rw [if_pos enters, arrive_of_enters enters]
  · rw [if_neg enters, arrive_of_stays (Bool.eq_false_iff.mpr enters)]

/-- The gap begins where the loader will be and ends at the address asked for. -/
theorem origin_add_gap (admits : Admits geometry cursor record) :
    (cursor.burstOf geometry record).origin geometry.configStart cursor.address +
      (cursor.burstOf geometry record).gap = cursor.target record := by
  have arrived : (cursor.arrive geometry (cursor.target record)).address ≤
      cursor.target record :=
    Nat.le_of_not_lt (fun behind =>
      Nat.not_lt_of_le admits.forward (lt_address_arrive_iff.mp behind))
  rw [origin_burstOf]
  exact Nat.add_sub_cancel' arrived

theorem limit_burstOf (admits : Admits geometry cursor record) :
    (cursor.burstOf geometry record).limit geometry.configStart cursor.address =
      (cursor.advance record).address := by
  rw [Burst.limit, origin_add_gap admits, length_words_burstOf,
    Nat.mul_div_cancel_left _ (by decide : 0 < 2)]
  rfl

theorem stores_burstOf (admits : Admits geometry cursor record) :
    (cursor.burstOf geometry record).stores geometry.configStart cursor.address =
      Store.consecutive (cursor.target record) (Word.ofBytes record.payload) := by
  rw [Burst.stores, origin_add_gap admits]
  exact congrArg (Store.consecutive (cursor.target record))
    (ofBytes_wholeWords record.payload)

end FlashScript.Cursor
