/-
Records that are refused.  A refusal leaves the cursor as it was, but for a data
record without a whole word that asks for the config region: it takes the cursor
there although nothing is emitted.  The region counts as entered from then on,
so that no later record enters it.
-/

import FlashScript.Device
import FlashScript.Proofs.Placement

namespace FlashScript

instance decidableEqExcept {ε α : Type} [DecidableEq ε] [DecidableEq α] :
    DecidableEq (Except ε α)
  | .ok value, .ok other =>
      decidable_of_iff (value = other) ⟨congrArg _, Except.ok.inj⟩
  | .error error, .error other =>
      decidable_of_iff (error = other) ⟨congrArg _, Except.error.inj⟩
  | .ok _, .error _ => isFalse nofun
  | .error _, .ok _ => isFalse nofun

namespace Cursor

variable {geometry : Geometry} {cursor : Cursor} {record : Record}
  {error : PlacementError}

/-- The cursor after any records, refused ones among them. -/
def placeThrough (geometry : Geometry) (cursor : Cursor) (records : List Record) :
    Cursor :=
  records.foldl (fun reached record => (reached.place geometry record).1) cursor

/-! ### The cursor after a refusal -/

/-- Of all the refusals only that of an empty data record moves the cursor. -/
theorem place_of_refused (refused : (cursor.place geometry record).2 = .error error) :
    (cursor.place geometry record).1 =
      if error = .emptyData then cursor.arrive geometry (cursor.target record)
      else cursor := by
  have came := place_outcome geometry cursor record
  rw [refused] at came
  generalize (cursor.place geometry record).1 = next at came ⊢
  cases came with
  | refused filled => rw [if_neg filled]
  | empty => rw [if_pos rfl]

theorem base_arrive (geometry : Geometry) (cursor : Cursor) (address : Nat) :
    (cursor.arrive geometry address).base = cursor.base := by
  unfold arrive
  split <;> rfl

theorem address_arrive_eq_iff {address : Nat} :
    (cursor.arrive geometry address).address = cursor.address ↔
      ¬(geometry.configStart ≤ address ∧ cursor.address < geometry.configStart) := by
  constructor
  · intro still entry
    rw [arrive_of_enters (entersConfig_iff.mpr entry)] at still
    exact absurd still (Nat.ne_of_gt entry.2)
  · intro outside
    rw [arrive_of_stays (entersConfig_eq_false_iff.mpr outside)]

/-! ### Records after the config region -/

theorem address_le_placeThrough (geometry : Geometry) (cursor : Cursor)
    (records : List Record) :
    cursor.address ≤ (cursor.placeThrough geometry records).address := by
  induction records generalizing cursor with
  | nil => exact Nat.le_refl cursor.address
  | cons record later inductionHypothesis =>
      have step := (place_outcome geometry cursor record).address_le
      exact Nat.le_trans step
        (inductionHypothesis (cursor.place geometry record).1)

theorem entersConfig_of_placed {burst : Burst}
    (placed : (cursor.place geometry record).2 = .ok (some burst)) :
    burst.entersConfig = cursor.entersConfig geometry (cursor.target record) := by
  have came := place_outcome geometry cursor record
  rw [placed] at came
  generalize (cursor.place geometry record).1 = next at came
  cases came with
  | admitted admits => rfl

/-- The config region is not entered again from within it. -/
theorem entersConfig_after {later : List Record} {burst : Burst}
    (inConfig : geometry.configStart ≤ cursor.address)
    (placed : ((cursor.placeThrough geometry later).place geometry record).2 =
      .ok (some burst)) :
    burst.entersConfig = false := by
  have forward := address_le_placeThrough geometry cursor later
  rw [entersConfig_of_placed placed]
  apply entersConfig_eq_false_iff.mpr
  omega

end Cursor

/-- A refused record leaves the cursor as it was unless it is an empty data
record that is the first one to ask for the config region.  Such a record takes
the cursor there, and the region is never entered after it. -/
theorem refused_record_keeps_cursor_iff (geometry : Geometry)
    (earlier : List Record) (record : Record) (error : PlacementError)
    (refused : ((Cursor.start.placeThrough geometry earlier).place geometry
      record).2 = .error error) :
    let cursor := Cursor.start.placeThrough geometry earlier
    let next := (cursor.place geometry record).1
    (next.address = cursor.address ∧ next.base = cursor.base ↔
      ¬(error = .emptyData ∧ geometry.configStart ≤ cursor.target record ∧
        cursor.address < geometry.configStart)) ∧
      next.base = cursor.base ∧
      (next.address ≠ cursor.address →
        next.address = geometry.configStart ∧
          ∀ later following burst,
            ((next.placeThrough geometry later).place geometry following).2 =
                .ok (some burst) →
              burst.entersConfig = false) := by
  intro cursor next
  have moved : next = if error = .emptyData then
      cursor.arrive geometry (cursor.target record) else cursor :=
    Cursor.place_of_refused refused
  by_cases empty : error = .emptyData
  · rw [if_pos empty] at moved
    have half : next.base = cursor.base := by
      rw [moved]
      exact Cursor.base_arrive geometry cursor _
    have stays : next.address = cursor.address ↔
        ¬(geometry.configStart ≤ cursor.target record ∧
          cursor.address < geometry.configStart) := by
      rw [moved]
      exact Cursor.address_arrive_eq_iff
    refine ⟨?_, half, ?_⟩
    · rw [and_iff_left half, stays, and_iff_right empty]
    · intro displaced
      have enters := Decidable.not_not.mp (mt stays.mpr displaced)
      have arrived : next.address = geometry.configStart := by
        rw [moved, Cursor.arrive_of_enters (Cursor.entersConfig_iff.mpr enters)]
      refine ⟨arrived, ?_⟩
      intro later following burst placed
      exact Cursor.entersConfig_after (Nat.le_of_eq arrived.symm) placed
  · rw [if_neg empty] at moved
    rw [moved]
    refine ⟨?_, rfl, ?_⟩
    · exact iff_of_true ⟨rfl, rfl⟩ (fun entry => empty entry.1)
    · intro displaced
      exact absurd rfl displaced

/-- In the config region an empty record is refused like any other. -/
theorem refused_record_keeps_cursor_within_config :
    let within := Cursor.start.placeThrough Device.pic16f690.geometry
      [{ address := 0x4000
         recordType := 0
         payload := [0x84, 0x31]
         payloadFits := by decide }]
    let empty : Record :=
      { address := 0x400E
        recordType := 0
        payload := [0x84]
        payloadFits := by decide }
    let placed := within.place Device.pic16f690.geometry empty
    placed.2 = .error .emptyData ∧ placed.1.address = within.address ∧
      placed.1.base = within.base := by
  intro within empty placed
  have refused : placed.2 = .error .emptyData := by decide
  have keeps := refused_record_keeps_cursor_iff Device.pic16f690.geometry _ empty
    .emptyData refused
  exact ⟨refused, keeps.1.mpr (fun entry => absurd entry.2.2 (by decide))⟩

/-- An empty record that asks for the config region is refused and yet moves the
cursor.  The record after it is then programmed without entering the region,
which it would have done had the empty one not been there. -/
theorem empty_record_moves_cursor :
    let geometry := Device.pic16f690.geometry
    let empty : Record :=
      { address := 0x4000
        recordType := 0
        payload := [0x84]
        payloadFits := by decide }
    let word : Record :=
      { address := 0x400E
        recordType := 0
        payload := [0x84, 0x31]
        payloadFits := by decide }
    ¬(∀ (geometry : Geometry) (earlier : List Record) (record : Record)
        (error : PlacementError),
        let cursor := Cursor.start.placeThrough geometry earlier
        let placed := cursor.place geometry record
        placed.2 = .error error →
          placed.1.address = cursor.address ∧ placed.1.base = cursor.base) ∧
      (Cursor.start.place geometry empty).1.address = 0x2000 ∧
      ((Cursor.start.placeThrough geometry [empty]).place geometry word).2 =
        .ok (some
          { entersConfig := false
            gap := 7
            words := [0x84, 0x31] }) ∧
      ((Cursor.start.placeThrough geometry []).place geometry word).2 =
        .ok (some
          { entersConfig := true
            gap := 7
            words := [0x84, 0x31] }) := by
  intro geometry empty word
  refine ⟨?_, by decide, by decide, by decide⟩
  intro keeps
  have kept := (keeps geometry [] empty .emptyData (by decide)).1
  exact absurd kept (by decide)

end FlashScript
