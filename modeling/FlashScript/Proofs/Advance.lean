/-
Where the cursor can be after any records, on any geometry.  It never goes back,
it never passes the end of the address space by more than the rest of one
record, and the config region is entered once at most.  Nothing is asked of the
order of the three bounds, and refused records are followed by others.
-/

import FlashScript.Proofs.Refusal

namespace FlashScript

namespace Cursor

variable {geometry : Geometry} {cursor next : Cursor} {record : Record}
  {burst : Burst} {outcome : Except PlacementError (Option Burst)}

/-! ### Half and address -/

theorem base_eq_or (cursor : Cursor) : cursor.base = 0 ∨ cursor.base = 0x8000 := by
  unfold base
  cases cursor.upperHalf with
  | false => exact .inl rfl
  | true => exact .inr rfl

theorem Outcome.of_base_ne (came : Outcome geometry cursor record next outcome)
    (moved : next.base ≠ cursor.base) :
    record.recordType = 4 ∧ outcome = .ok none := by
  cases came with
  | admitted admits => exact absurd rfl moved
  | ended endOfFile => exact absurd rfl moved
  | selected extended still half => exact ⟨extended, rfl⟩
  | refused filled => exact absurd rfl moved
  | empty => exact absurd (base_arrive geometry cursor _) moved

theorem address_place_of_other (other : record.recordType ≠ 0) :
    (cursor.place geometry record).1.address = cursor.address := by
  by_cases endOfFile : record.recordType = 1
  · rw [place_endOfFile endOfFile]
  · by_cases extended : record.recordType = 4
    · rw [place_extended extended]
      cases selected : cursor.selectHalf record with
      | error error => rfl
      | ok next => exact (selectHalf_ok selected).1
    · rw [place_unsupported other endOfFile extended]

/-- The address asked for is in the address space once a record is not refused
for it, and a record has at most 127 words. -/
theorem address_placeData_le (within : cursor.address ≤ geometry.spaceLimit + 126) :
    (cursor.placeData geometry record).1.address ≤ geometry.spaceLimit + 126 := by
  rw [placeData_eq]
  split
  · exact within
  · split
    · exact within
    · rename_i inSpace
      split
      · exact within
      · split
        · exact within
        · split
          · cases enters : cursor.entersConfig geometry (cursor.target record) with
            | false =>
                rw [arrive_of_stays enters]
                exact within
            | true =>
                rcases entersConfig_iff.mp enters with ⟨inConfig, _⟩
                rw [arrive_of_enters enters]
                change geometry.configStart ≤ geometry.spaceLimit + 126
                omega
          · have fits := record.payloadFits
            change cursor.target record + record.payload.length / 2 ≤ _
            omega

theorem address_place_le (within : cursor.address ≤ geometry.spaceLimit + 126) :
    (cursor.place geometry record).1.address ≤ geometry.spaceLimit + 126 := by
  by_cases data : record.recordType = 0
  · rw [place_data data]
    exact address_placeData_le within
  · rw [address_place_of_other data]
    exact within

theorem address_placeThrough_le (records : List Record)
    (within : cursor.address ≤ geometry.spaceLimit + 126) :
    (cursor.placeThrough geometry records).address ≤ geometry.spaceLimit + 126 := by
  induction records generalizing cursor with
  | nil => exact within
  | cons record later inductionHypothesis =>
      exact inductionHypothesis (address_place_le within)

/-! ### Entries -/

/-- What came of any records in order, refusals included. -/
def placements (geometry : Geometry) (cursor : Cursor) :
    List Record → List (Except PlacementError (Option Burst))
  | [] => []
  | record :: later =>
      (cursor.place geometry record).2 ::
        placements geometry (cursor.place geometry record).1 later

def isEntry : Except PlacementError (Option Burst) → Bool
  | .ok (some burst) => burst.entersConfig
  | _ => false

theorem Outcome.entry (came : Outcome geometry cursor record next outcome)
    (entry : isEntry outcome = true) :
    cursor.address < geometry.configStart ∧ geometry.configStart ≤ next.address := by
  cases came with
  | admitted admits =>
      rcases entersConfig_iff.mp entry with ⟨inConfig, below⟩
      refine ⟨below, ?_⟩
      change geometry.configStart ≤ cursor.target record + _
      omega
  | ended endOfFile => cases entry
  | selected extended still half => cases entry
  | refused filled => cases entry
  | empty => cases entry

/-- Once the cursor is not below the region, nothing enters it. -/
theorem countP_placements_of_le (records : List Record)
    (inConfig : geometry.configStart ≤ cursor.address) :
    (cursor.placements geometry records).countP isEntry = 0 := by
  induction records generalizing cursor with
  | nil => rfl
  | cons record later inductionHypothesis =>
      have came := place_outcome geometry cursor record
      have stays : ¬isEntry (cursor.place geometry record).2 = true := by
        intro entry
        have below := (came.entry entry).1
        omega
      rw [placements, List.countP_cons_of_neg stays]
      exact inductionHypothesis (Nat.le_trans inConfig came.address_le)

theorem countP_placements_le_one (geometry : Geometry) (cursor : Cursor)
    (records : List Record) :
    (cursor.placements geometry records).countP isEntry ≤ 1 := by
  induction records generalizing cursor with
  | nil => exact Nat.zero_le 1
  | cons record later inductionHypothesis =>
      rw [placements]
      by_cases entry : isEntry (cursor.place geometry record).2 = true
      · have inConfig := ((place_outcome geometry cursor record).entry entry).2
        have noneLater := countP_placements_of_le later inConfig
        rw [List.countP_cons_of_pos entry]
        exact Nat.succ_le_succ (Nat.le_of_eq noneLater)
      · rw [List.countP_cons_of_neg entry]
        exact inductionHypothesis (cursor.place geometry record).1

/-! ### Bursts -/

/-- A burst takes the whole words of a data record, and takes the cursor from
where the gap begins to the end of the words. -/
structure Carries (geometry : Geometry) (cursor next : Cursor) (record : Record)
    (burst : Burst) : Prop where
  data : record.recordType = 0
  filled : burst.words ≠ []
  whole : burst.words.length % 2 = 0
  begins : burst.words <+: record.payload
  leaves : record.payload.length ≤ burst.words.length + 1
  short : burst.words.length ≤ 254
  behind : burst.origin geometry.configStart cursor.address ≤
    record.address.toNat / 2 + cursor.base
  lands : burst.origin geometry.configStart cursor.address + burst.gap =
    record.address.toNat / 2 + cursor.base
  reaches : next.address = burst.origin geometry.configStart cursor.address +
    burst.gap + burst.words.length / 2

theorem Admits.carries (admits : Admits geometry cursor record) :
    Carries geometry cursor (cursor.advance record) record
      (cursor.burstOf geometry record) := by
  have length : (cursor.burstOf geometry record).words.length =
      2 * (record.payload.length / 2) := length_words_burstOf
  have filled := admits.filled
  have fits := record.payloadFits
  have lands := origin_add_gap admits
  refine
    { data := admits.data
      filled := List.ne_nil_of_length_pos (by omega)
      whole := by omega
      begins := List.take_prefix _ _
      leaves := by omega
      short := by omega
      behind := Nat.le.intro lands
      lands := lands
      reaches := ?_ }
  exact (limit_burstOf admits).symm

theorem Outcome.carries (came : Outcome geometry cursor record next (.ok (some burst))) :
    Carries geometry cursor next record burst := by
  cases came with
  | admitted admits => exact admits.carries

end Cursor

/-- On any geometry and after any records, refused ones among them, the cursor
is in range, has entered the config region once at most, and goes on with any
record: forward, in the same half unless an extended address is accepted, and
by what a data record carries. -/
theorem cursor_stays_in_range (geometry : Geometry) (earlier : List Record) :
    let cursor := Cursor.start.placeThrough geometry earlier
    (cursor.base = 0 ∨ cursor.base = 0x8000) ∧
      cursor.address ≤ geometry.spaceLimit + 126 ∧
      (Cursor.start.placements geometry earlier).countP Cursor.isEntry ≤ 1 ∧
      ∀ record,
        let next := (cursor.place geometry record).1
        let outcome := (cursor.place geometry record).2
        cursor.address ≤ next.address ∧
          (next.base ≠ cursor.base →
            record.recordType = 4 ∧ outcome = .ok none) ∧
          ∀ burst, outcome = .ok (some burst) →
            Cursor.Carries geometry cursor next record burst := by
  intro cursor
  refine ⟨cursor.base_eq_or, ?_, ?_, ?_⟩
  · exact Cursor.address_placeThrough_le earlier (Nat.zero_le _)
  · exact Cursor.countP_placements_le_one geometry Cursor.start earlier
  · intro record next outcome
    have came : Cursor.Outcome geometry cursor record next outcome :=
      Cursor.place_outcome geometry cursor record
    refine ⟨came.address_le, came.of_base_ne, ?_⟩
    intro burst placed
    rw [placed] at came
    exact came.carries

/-- Program memory reaches into the config region here.  A record without a word
is refused at the region and leaves the cursor there, a half cannot be selected,
and the last record has an odd byte that is left out. -/
theorem cursor_stays_in_range_of_overlapping_regions :
    let geometry : Geometry :=
      { deviceId := 0
        programLimit := 0x3000
        configStart := 0x2000
        spaceLimit := 0x2100 }
    let earlier : List Record :=
      [{ address := 0x4000, recordType := 0, payload := [7], payloadFits := by decide },
        { address := 0, recordType := 4, payload := [0, 2], payloadFits := by decide }]
    let record : Record :=
      { address := 0x41FE
        recordType := 0
        payload := [1, 2, 3, 4, 5]
        payloadFits := by decide }
    let cursor := Cursor.start.placeThrough geometry earlier
    let burst : Burst :=
      { entersConfig := false
        gap := 0xFF
        words := [1, 2, 3, 4] }
    (cursor.place geometry record).2 = .ok (some burst) ∧
      Cursor.Carries geometry cursor (cursor.place geometry record).1 record burst ∧
      (cursor.place geometry record).1.address = 0x2101 := by
  intro geometry earlier record cursor burst
  have placed : (cursor.place geometry record).2 = .ok (some burst) := by decide
  obtain ⟨_, _, _, goes⟩ := cursor_stays_in_range geometry earlier
  obtain ⟨_, _, carries⟩ := goes record
  exact ⟨placed, carries burst placed, by decide⟩

end FlashScript
