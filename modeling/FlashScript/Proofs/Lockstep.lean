/-
The loader keeps in step with the cursor on any geometry.  Records are placed and
emitted one after the other, and after each of them the loader has come to where
the cursor stands.  It never goes back on the way: the config region is entered
only while the cursor, and so the loader, is still below it.  Nothing is asked of
the order of the three bounds, so that program memory may run into the region.
-/

import FlashScript.Proofs.Entry
import FlashScript.Proofs.Refusal

namespace FlashScript

/-! ### Entries from below -/

namespace Loader

variable {configStart address : Nat} {instructions first second : List Instruction}

/-- The loader stands below the config region whenever it enters it. -/
def EntersFromBelow (configStart address : Nat) : List Instruction → Prop
  | [] => True
  | instruction :: later =>
      (instruction = .enterConfig → address < configStart) ∧
        EntersFromBelow configStart (next configStart address instruction) later

theorem entersFromBelow_append :
    EntersFromBelow configStart address (first ++ second) ↔
      EntersFromBelow configStart address first ∧
        EntersFromBelow configStart (runFrom configStart address first).address
          second := by
  induction first generalizing address with
  | nil => exact ⟨fun enters => ⟨trivial, enters⟩, And.right⟩
  | cons instruction later inductionHypothesis =>
      rw [List.cons_append, EntersFromBelow, EntersFromBelow, inductionHypothesis,
        and_assoc]
      rfl

theorem entersFromBelow_of_not_mem (absent : .enterConfig ∉ instructions) :
    EntersFromBelow configStart address instructions := by
  induction instructions generalizing address with
  | nil => trivial
  | cons instruction later inductionHypothesis =>
      have other : .enterConfig ≠ instruction := List.ne_of_not_mem_cons absent
      refine ⟨?_, inductionHypothesis (List.not_mem_of_not_mem_cons absent)⟩
      intro entry
      exact absurd entry.symm other

theorem le_next_of_below {instruction : Instruction}
    (below : instruction = .enterConfig → address < configStart) :
    address ≤ next configStart address instruction := by
  by_cases entry : instruction = .enterConfig
  · rw [entry]
    exact Nat.le_of_lt (below entry)
  · exact le_next entry

theorem EntersFromBelow.address_le
    (enters : EntersFromBelow configStart address instructions) :
    address ≤ (runFrom configStart address instructions).address := by
  induction instructions generalizing address with
  | nil => exact Nat.le_refl address
  | cons instruction later inductionHypothesis =>
      obtain ⟨below, rest⟩ := enters
      exact Nat.le_trans (le_next_of_below below) (inductionHypothesis rest)

/-- A loader that has reached the region enters it no more. -/
theorem EntersFromBelow.not_mem_of_le
    (enters : EntersFromBelow configStart address instructions)
    (reached : configStart ≤ address) : .enterConfig ∉ instructions := by
  induction instructions generalizing address with
  | nil => exact List.not_mem_nil
  | cons instruction later inductionHypothesis =>
      obtain ⟨below, rest⟩ := enters
      have other : ¬instruction = .enterConfig :=
        fun entry => Nat.not_le_of_lt (below entry) reached
      have onward := Nat.le_trans reached (le_next_of_below below)
      exact List.not_mem_cons_of_ne_of_not_mem (Ne.symm other)
        (inductionHypothesis rest onward)

theorem EntersFromBelow.count_le_one
    (enters : EntersFromBelow configStart address instructions) :
    instructions.count .enterConfig ≤ 1 := by
  induction instructions generalizing address with
  | nil => exact Nat.zero_le 1
  | cons instruction later inductionHypothesis =>
      obtain ⟨below, rest⟩ := enters
      by_cases entry : instruction = .enterConfig
      · subst entry
        have absent := rest.not_mem_of_le (Nat.le_refl configStart)
        have noneLater := List.count_eq_zero.mpr absent
        rw [List.count_cons_self]
        exact Nat.succ_le_succ (Nat.le_of_eq noneLater)
      · rw [List.count_cons_of_ne entry]
        exact inductionHypothesis rest

theorem EntersFromBelow.lt_of_split {before after : List Instruction}
    (enters : EntersFromBelow configStart address instructions)
    (split : instructions = before ++ .enterConfig :: after) :
    (runFrom configStart address before).address < configStart := by
  rw [split, entersFromBelow_append] at enters
  exact enters.2.1 rfl

theorem EntersFromBelow.address_le_of_prefix {sooner later : List Instruction}
    (enters : EntersFromBelow configStart address instructions)
    (begins : sooner <+: later) (within : later <+: instructions) :
    (runFrom configStart address sooner).address ≤
      (runFrom configStart address later).address := by
  obtain ⟨between, rfl⟩ := begins
  obtain ⟨rest, rfl⟩ := within
  rw [entersFromBelow_append, entersFromBelow_append] at enters
  rw [runFrom_append]
  exact enters.1.2.address_le

end Loader

theorem Burst.entersFromBelow {burst : Burst} {configStart address : Nat}
    (below : burst.entersConfig = true → address < configStart) :
    Loader.EntersFromBelow configStart address burst.instructions := by
  cases enters : burst.entersConfig with
  | false =>
      exact Loader.entersFromBelow_of_not_mem (enterConfig_not_mem_instructions enters)
  | true =>
      rw [instructions_of_enters enters]
      exact ⟨fun _ => below enters,
        Loader.entersFromBelow_of_not_mem
          (List.not_mem_append (enterConfig_not_mem_skips _)
            (enterConfig_not_mem_writes _))⟩

/-! ### Records in a row -/

namespace Compilation

variable {geometry : Geometry} {compilation reached next finished : Compilation}
  {earlier records first second : List Record} {record : Record}
  {instructions : List Instruction}

/-- Places and emits records in order, up to the first error. -/
def feedRecords (compilation : Compilation) :
    List Record → Except LineError Compilation
  | [] => .ok compilation
  | record :: later =>
      match compilation.feedRecord record with
      | (fed, .ok ()) => fed.feedRecords later
      | (_, .error error) => .error error

theorem feedRecords_cons_eq_ok_iff :
    compilation.feedRecords (record :: records) = .ok finished ↔
      ∃ next, compilation.feedRecord record = (next, .ok ()) ∧
        next.feedRecords records = .ok finished := by
  rw [feedRecords]
  cases came : compilation.feedRecord record with
  | mk fed outcome =>
      cases outcome with
      | ok done =>
          constructor
          · intro accepted
            exact ⟨fed, rfl, accepted⟩
          · rintro ⟨next, same, accepted⟩
            cases same
            exact accepted
      | error error =>
          constructor
          · intro accepted
            cases accepted
          · rintro ⟨next, same, accepted⟩
            cases same

theorem feedRecords_append_eq_ok_iff :
    compilation.feedRecords (first ++ second) = .ok finished ↔
      ∃ reached, compilation.feedRecords first = .ok reached ∧
        reached.feedRecords second = .ok finished := by
  induction first generalizing compilation with
  | nil =>
      constructor
      · intro accepted
        exact ⟨compilation, rfl, accepted⟩
      · rintro ⟨reached, same, accepted⟩
        cases same
        exact accepted
  | cons record later inductionHypothesis =>
      simp only [List.cons_append, feedRecords_cons_eq_ok_iff, inductionHypothesis]
      constructor
      · rintro ⟨next, came, reached, front, back⟩
        exact ⟨reached, ⟨next, came, front⟩, back⟩
      · rintro ⟨reached, ⟨next, came, front⟩, back⟩
        exact ⟨next, came, reached, front, back⟩

theorem fed_of_feedRecord (came : compilation.feedRecord record = (next, .ok ())) :
    Fed compilation record next (.ok ()) := by
  have fed := feedRecord_fed compilation record
  rw [came] at fed
  exact fed

/-- The script may be that of any device, whatever the geometry. -/
def startFor (deviceId : UInt16) (geometry : Geometry) : Compilation :=
  { startOn geometry with script := Script.empty deviceId }

/-! ### In step -/

/-- What the loader does with all that the script holds. -/
def replay (configStart : Nat) (compilation : Compilation) : Loader.Trace :=
  Loader.run configStart compilation.script.listing.instructions

/-- The loader comes to where the cursor stands and has never gone back. -/
structure InStep (configStart : Nat) (compilation : Compilation) : Prop where
  whole : compilation.script.listing.truncatedAt = none
  arrives : (compilation.replay configStart).address = compilation.cursor.address
  fromBelow : ∀ before after,
    compilation.script.listing.instructions = before ++ .enterConfig :: after →
      (Loader.run configStart before).address < configStart
  forward : ∀ sooner later, sooner <+: later →
    later <+: compilation.script.listing.instructions →
      (Loader.run configStart sooner).address ≤ (Loader.run configStart later).address
  once : compilation.script.listing.instructions.count .enterConfig ≤ 1

/-- A data record adds the stores of its whole words, at the address that it names
in the half selected, and any other record adds nothing to the script. -/
structure Adds (configStart : Nat) (reached next : Compilation) (record : Record) :
    Prop where
  grows : reached.script.listing.instructions <+: next.script.listing.instructions
  data : record.recordType = 0 →
    (next.replay configStart).stores = (reached.replay configStart).stores ++
      Store.consecutive (record.address.toNat / 2 + reached.cursor.base)
        (Word.ofBytes record.payload)
  other : record.recordType ≠ 0 → next.script = reached.script

/-- The instructions do what the records before ask for, and only forward. -/
structure Paced (geometry : Geometry) (compilation : Compilation)
    (earlier : List Record) (instructions : List Instruction) : Prop where
  geometry_eq : compilation.geometry = geometry
  simulates : compilation.Simulates earlier instructions
  fromBelow : Loader.EntersFromBelow geometry.configStart 0 instructions

theorem paced_startFor (deviceId : UInt16) (geometry : Geometry) :
    (startFor deviceId geometry).Paced geometry [] [] where
  geometry_eq := rfl
  simulates :=
    { simulates_start geometry with lists := Script.lists_empty deviceId }
  fromBelow := trivial

theorem Paced.run_eq (paced : compilation.Paced geometry earlier instructions) :
    Loader.run geometry.configStart instructions =
      { stores := Firmware.stores (Firmware.dataRuns earlier)
        address := compilation.cursor.address } := by
  rw [← paced.geometry_eq]
  exact paced.simulates.trace

theorem Paced.fed (paced : compilation.Paced geometry earlier instructions)
    (came : Fed compilation record next (.ok ())) :
    next.Paced geometry (earlier ++ [record])
      (instructions ++ compilation.emitted record) where
  geometry_eq := came.geometry.trans paced.geometry_eq
  simulates := paced.simulates.fed came
  fromBelow := by
    refine Loader.entersFromBelow_append.mpr ⟨paced.fromBelow, ?_⟩
    rw [← Loader.run, paced.run_eq]
    rcases came.accepted with ⟨admits, _⟩ | ⟨other, _⟩
    · -- A burst enters the region only when the cursor is below it.
      rw [emitted_data admits.data]
      apply Burst.entersFromBelow
      intro enters
      rw [← paced.geometry_eq]
      exact (Cursor.entersConfig_iff.mp enters).2
    · rw [emitted_other other]
      trivial

theorem Paced.feedRecords (paced : compilation.Paced geometry earlier instructions)
    (accepted : compilation.feedRecords records = .ok finished) :
    ∃ longer, finished.Paced geometry (earlier ++ records) longer := by
  induction records generalizing compilation earlier instructions with
  | nil =>
      cases accepted
      rw [List.append_nil]
      exact ⟨instructions, paced⟩
  | cons record later inductionHypothesis =>
      obtain ⟨next, came, rest⟩ := feedRecords_cons_eq_ok_iff.mp accepted
      rw [List.append_cons]
      exact inductionHypothesis (paced.fed (fed_of_feedRecord came)) rest

theorem Paced.instructions_eq (paced : compilation.Paced geometry earlier instructions) :
    compilation.script.listing.instructions = instructions := by
  rw [paced.simulates.lists.listing_eq]

theorem Paced.inStep (paced : compilation.Paced geometry earlier instructions) :
    compilation.InStep geometry.configStart where
  whole := by rw [paced.simulates.lists.listing_eq]
  arrives := by rw [replay, paced.instructions_eq, paced.run_eq]
  fromBelow := by
    rw [paced.instructions_eq]
    intro before after split
    exact paced.fromBelow.lt_of_split split
  forward := by
    rw [paced.instructions_eq]
    intro sooner later begins within
    exact paced.fromBelow.address_le_of_prefix begins within
  once := by
    rw [paced.instructions_eq]
    exact paced.fromBelow.count_le_one

theorem Paced.adds (paced : reached.Paced geometry earlier instructions)
    (came : Fed reached record next (.ok ())) :
    Adds geometry.configStart reached next record where
  grows := by
    rw [paced.instructions_eq, (paced.fed came).instructions_eq]
    exact List.prefix_append _ _
  data := by
    intro data
    have target := paced.simulates.follows.target record
    rw [replay, replay, paced.instructions_eq, (paced.fed came).instructions_eq,
      paced.run_eq, (paced.fed came).run_eq, Firmware.stores_append_data data, ← target]
    rfl
  other := by
    intro other
    rcases came.accepted with ⟨admits, _⟩ | ⟨_, cursor, moved, _⟩
    · exact absurd admits.data other
    · rw [moved]
      rfl

end Compilation

/-- On any geometry, and after each of the records that are accepted in a row, the
loader run over the script so far stands where the cursor does.  A data record has
added the stores of its whole words and any other record nothing.  The loader goes
only forward, and into the config region from below it. -/
theorem loader_keeps_step_with_cursor (deviceId : UInt16) (geometry : Geometry)
    (records : List Record) (finished : Compilation)
    (accepted : (Compilation.startFor deviceId geometry).feedRecords records =
      .ok finished) :
    finished.InStep geometry.configStart ∧
      ∀ earlier record later, records = earlier ++ record :: later →
        ∃ reached next,
          (Compilation.startFor deviceId geometry).feedRecords earlier = .ok reached ∧
            reached.feedRecord record = (next, .ok ()) ∧
            next.feedRecords later = .ok finished ∧
            reached.InStep geometry.configStart ∧
            next.InStep geometry.configStart ∧
            Compilation.Adds geometry.configStart reached next record := by
  have start := Compilation.paced_startFor deviceId geometry
  constructor
  · obtain ⟨instructions, paced⟩ := start.feedRecords accepted
    exact paced.inStep
  · intro earlier record later split
    rw [split] at accepted
    obtain ⟨reached, front, back⟩ :=
      Compilation.feedRecords_append_eq_ok_iff.mp accepted
    obtain ⟨next, came, rest⟩ := Compilation.feedRecords_cons_eq_ok_iff.mp back
    obtain ⟨instructions, paced⟩ := start.feedRecords front
    have fed := Compilation.fed_of_feedRecord came
    exact ⟨reached, next, front, came, rest, paced.inStep, (paced.fed fed).inStep,
      paced.adds fed⟩

/-- Program memory reaches far into the config region here, and the script is that
of another device.  The record that enters the region has an odd byte at its end. -/
theorem loader_keeps_step_with_cursor_of_overlapping_regions :
    let geometry : Geometry :=
      { deviceId := 7
        programLimit := 0x8800
        configStart := 0x7E00
        spaceLimit := 0x9000 }
    let earlier : List Record :=
      [{ address := 0, recordType := 0, payload := [1, 2], payloadFits := by decide },
        { address := 0, recordType := 4, payload := [0, 1], payloadFits := by decide }]
    let record : Record :=
      { address := 2
        recordType := 0
        payload := [3, 4, 5, 6, 7]
        payloadFits := by decide }
    let later : List Record :=
      [{ address := 9, recordType := 1, payload := [8], payloadFits := by decide },
        { address := 8, recordType := 0, payload := [9, 10], payloadFits := by decide }]
    let start := Compilation.startFor 0x1400 geometry
    ∃ finished, start.feedRecords (earlier ++ record :: later) = .ok finished ∧
      finished.script.listing.instructions =
        [.write [1, 2], .enterConfig, .skip ⟨255, by decide⟩, .skip ⟨255, by decide⟩,
          .skip ⟨3, by decide⟩, .write [3, 4, 5, 6], .skip ⟨1, by decide⟩,
          .write [9, 10]] ∧
      finished.cursor.address = 0x8005 ∧
      finished.InStep 0x7E00 ∧
      ∃ reached next : Compilation, reached.feedRecord record = (next, .ok ()) ∧
        next.InStep 0x7E00 ∧ Compilation.Adds 0x7E00 reached next record := by
  intro geometry earlier record later start
  let finished : Compilation :=
    { start with
      cursor := { address := 0x8005, upperHalf := true }
      script :=
        { deviceId := 0x1400
          scriptEnd := 0
          opcodes := #[1, 1, 2, 0, 0, 0, 255, 0, 255, 0, 3, 2, 3, 4, 5, 6, 0, 1, 1, 9,
            10] } }
  have accepted : start.feedRecords (earlier ++ record :: later) = .ok finished := by
    decide +kernel
  obtain ⟨inStep, each⟩ :=
    loader_keeps_step_with_cursor 0x1400 geometry _ finished accepted
  obtain ⟨reached, next, _, came, _, _, onward, adds⟩ := each earlier record later rfl
  exact ⟨finished, accepted, by decide +kernel, rfl, inStep, reached, next, came,
    onward, adds⟩

end FlashScript
