/-
A script does on the loader what its text asks for.  The instructions so far
have stored the words of the data records so far, each at its own address and
in ascending order, and have left the loader where the cursor stands.
-/

import FlashScript.Proofs.Diagnosis

namespace FlashScript

/-! ### Ascending stores -/

def Store.Before (first second : Store) : Prop :=
  first.address < second.address

theorem Store.pairwise_consecutive (address : Nat) (words : List Word) :
    (consecutive address words).Pairwise Before := by
  have increasing :
      ((consecutive address words).map Store.address).Pairwise (· < ·) := by
    rw [map_address_consecutive]
    exact List.pairwise_lt_range'
  rw [List.pairwise_map] at increasing
  exact increasing

namespace Firmware

variable {earlier : List Record} {record : Record}

/-- The stores of the records go up, and all are below the address reached. -/
structure Ascending (earlier : List Record) : Prop where
  ordered : (stores (dataRuns earlier)).Pairwise Store.Before
  below : ∀ store ∈ stores (dataRuns earlier), store.address < reached earlier

theorem ascending_nil : Ascending [] where
  ordered := List.Pairwise.nil
  below := by
    intro store member
    cases member

theorem stores_append_data (data : record.recordType = 0) :
    stores (dataRuns (earlier ++ [record])) =
      stores (dataRuns earlier) ++
        Store.consecutive (effectiveAddress earlier record)
          (Word.ofBytes record.payload) := by
  rw [dataRuns_append_data data, stores_append, stores_singleton]
  rfl

theorem Ascending.append (ascending : Ascending earlier)
    (data : record.recordType = 0)
    (forward : reached earlier ≤ effectiveAddress earlier record) :
    Ascending (earlier ++ [record]) where
  ordered := by
    rw [stores_append_data data]
    refine List.pairwise_append.mpr
      ⟨ascending.ordered, Store.pairwise_consecutive _ _, ?_⟩
    intro first among second member
    have before := ascending.below first among
    have after := (Store.address_of_mem_consecutive member).1
    exact Nat.lt_of_lt_of_le before (Nat.le_trans forward after)
  below := by
    intro store member
    rw [stores_append_data data] at member
    rw [reached_append_data data]
    rcases List.mem_append.mp member with among | last
    · have before := ascending.below store among
      have along : effectiveAddress earlier record ≤ (runOf earlier record).limit :=
        Nat.le_add_right _ _
      omega
    · exact (Store.address_of_mem_consecutive last).2

theorem Ascending.append_other (ascending : Ascending earlier)
    (other : record.recordType ≠ 0) : Ascending (earlier ++ [record]) where
  ordered := by
    rw [dataRuns_append_other other]
    exact ascending.ordered
  below := by
    rw [dataRuns_append_other other, reached_append_other other]
    exact ascending.below

end Firmware

/-! ### Loader and text -/

namespace Compilation

open Firmware (dataRuns records)

variable {compilation next : Compilation} {instructions : List Instruction}
  {earlier : List Record} {record : Record}

/-- The instructions of a script do what the records before ask for. -/
structure Simulates (compilation : Compilation) (earlier : List Record)
    (instructions : List Instruction) : Prop where
  lists : compilation.script.Lists instructions
  follows : compilation.cursor.Follows earlier
  trace : Loader.run compilation.geometry.configStart instructions =
    { stores := Firmware.stores (dataRuns earlier)
      address := compilation.cursor.address }
  ascending : Firmware.Ascending earlier

theorem simulates_start (geometry : Geometry) :
    (startOn geometry).Simulates [] [] where
  lists := Script.lists_empty geometry.deviceId
  follows := Cursor.follows_start
  trace := rfl
  ascending := Firmware.ascending_nil

theorem Simulates.program (simulates : compilation.Simulates earlier instructions)
    (admits : compilation.Admits record) :
    (compilation.program record).Simulates (earlier ++ [record])
      (instructions ++ (compilation.burstOf record).instructions) where
  lists := simulates.lists.appendAll
    (Burst.legal_instructions (compilation.length_words_even record))
  follows := simulates.follows.advance admits.data
  trace := by
    -- The loader runs the burst from where the instructions before it stop.
    have burst := Loader.runFrom_instructions compilation.geometry.configStart
      compilation.cursor.address (compilation.burstOf record)
    have stored := Cursor.stores_burstOf admits
    have limit := Cursor.limit_burstOf admits
    rw [simulates.follows.target] at stored
    change Loader.runFrom compilation.geometry.configStart 0 _ = _
    rw [Loader.runFrom_append, ← Loader.run, simulates.trace, burst, burstOf, stored,
      limit, Firmware.stores_append_data admits.data]
    rfl
  ascending := by
    have forward := admits.forward
    rw [simulates.follows.target, simulates.follows.address] at forward
    exact simulates.ascending.append admits.data forward

theorem Simulates.moveTo {cursor : Cursor}
    (simulates : compilation.Simulates earlier instructions)
    (other : record.recordType ≠ 0)
    (still : cursor.address = compilation.cursor.address)
    (follows : cursor.Follows (earlier ++ [record])) :
    (compilation.moveTo cursor).Simulates (earlier ++ [record]) instructions where
  lists := simulates.lists
  follows := follows
  trace := by
    rw [Firmware.dataRuns_append_other other]
    exact simulates.trace.trans (congrArg _ still.symm)
  ascending := simulates.ascending.append_other other

/-- What an accepted record adds to the script. -/
def emitted (compilation : Compilation) (record : Record) : List Instruction :=
  if record.recordType = 0 then (compilation.burstOf record).instructions else []

theorem emitted_data (data : record.recordType = 0) :
    compilation.emitted record = (compilation.burstOf record).instructions :=
  if_pos data

theorem emitted_other (other : record.recordType ≠ 0) :
    compilation.emitted record = [] :=
  if_neg other

theorem Simulates.fed (simulates : compilation.Simulates earlier instructions)
    (came : Fed compilation record next (.ok ())) :
    next.Simulates (earlier ++ [record])
      (instructions ++ compilation.emitted record) := by
  have follows := follows_fed compilation earlier record next simulates.follows came
  rcases came.accepted with ⟨admits, rfl⟩ | ⟨other, cursor, rfl, still⟩
  · rw [emitted_data admits.data]
    exact simulates.program admits
  · rw [emitted_other other, List.append_nil]
    exact simulates.moveTo other still follows

theorem simulates_count (simulates : compilation.Simulates earlier instructions) :
    compilation.count.Simulates earlier instructions where
  lists := simulates.lists
  follows := simulates.follows
  trace := simulates.trace
  ascending := simulates.ascending

/-- Every accepted text is simulated, on whatever geometry. -/
theorem simulates_feedAll {geometry : Geometry} {lines : List String}
    {finished : Compilation}
    (accepted : (startOn geometry).feedAll lines = .ok finished) :
    ∃ instructions, finished.Simulates (records lines) instructions := by
  refine feedAll_accepted
    (fun reached earlier => ∃ instructions, reached.Simulates earlier instructions)
    ?_ ?_ [] accepted ⟨[], simulates_start geometry⟩
  · intro reached earlier ⟨instructions, simulates⟩
    exact ⟨instructions, simulates_count simulates⟩
  · intro reached earlier record next ⟨instructions, simulates⟩ came
    exact ⟨_, simulates.fed came⟩

theorem geometry_feedAll {compilation finished : Compilation} {lines : List String}
    (accepted : compilation.feedAll lines = .ok finished) :
    finished.geometry = compilation.geometry := by
  rcases feedAll_forms compilation lines with whole | ⟨_, _, _, _, _, stopped, _⟩
  · cases accepted.symm.trans whole
    exact geometry_feedThrough compilation lines
  · cases accepted.symm.trans stopped

theorem compile_ok {device : Device} {lines : List String} {script : Script}
    (compiled : compile device lines = .ok script) :
    ∃ finished, (start device).feedAll lines = .ok finished ∧
      finished.script = script := by
  rw [compile] at compiled
  cases came : (start device).feedAll lines with
  | ok finished =>
      rw [came] at compiled
      cases compiled
      exact ⟨finished, rfl, rfl⟩
  | error diagnostic =>
      rw [came] at compiled
      cases compiled

theorem compile_fits {device : Device} {lines : List String} {script : Script}
    (compiled : compile device lines = .ok script) :
    script.size ≤ Script.capacity := by
  obtain ⟨finished, accepted, rfl⟩ := compile_ok compiled
  rcases feedAll_forms (start device) lines with whole | ⟨_, _, _, _, _, stopped, _⟩
  · cases accepted.symm.trans whole
    obtain ⟨instructions, bounded⟩ := bounded_feedThrough device lines
    exact Nat.le_of_lt (bounded.affords.lt_capacity bounded.roomy)
  · cases accepted.symm.trans stopped

theorem compile_simulates {device : Device} {lines : List String} {script : Script}
    (compiled : compile device lines = .ok script) :
    ∃ finished, (start device).feedAll lines = .ok finished ∧
      finished.script = script ∧ finished.geometry = device.geometry ∧
      finished.Simulates (records lines) script.listing.instructions ∧
      script.listing.truncatedAt = none := by
  obtain ⟨finished, accepted, same⟩ := compile_ok compiled
  obtain ⟨instructions, simulates⟩ := simulates_feedAll accepted
  have geometry : finished.geometry = device.geometry := geometry_feedAll accepted
  have listing := simulates.lists.listing_eq
  rw [same] at listing
  refine ⟨finished, accepted, same, geometry, ?_, ?_⟩
  · rw [listing]
    exact simulates
  · rw [listing]

theorem lists_of_compile {device : Device} {lines : List String} {script : Script}
    (compiled : compile device lines = .ok script) :
    script.Lists script.listing.instructions := by
  obtain ⟨finished, _, rfl, _, simulates, _⟩ := compile_simulates compiled
  exact simulates.lists

theorem trace_of_compile {device : Device} {lines : List String} {script : Script}
    (compiled : compile device lines = .ok script) :
    Loader.run device.geometry.configStart script.listing.instructions =
      { stores := Firmware.stores (dataRuns (records lines))
        address := Firmware.reached (records lines) } := by
  obtain ⟨finished, _, _, geometry, simulates, _⟩ := compile_simulates compiled
  rw [← geometry, simulates.trace, simulates.follows.address]

end Compilation

/-- Compiling keeps the meaning of a text: the words of its data records, each
once, in order and at the address it names, and nothing else. -/
theorem compile_preserves_stores (device : Device) (lines : List String)
    (script : Script) (compiled : Compilation.compile device lines = .ok script) :
    let run := Loader.run device.geometry.configStart script.listing.instructions
    script.listing.truncatedAt = none ∧
      run.stores = Firmware.stores (Firmware.dataRuns (Firmware.records lines)) ∧
      run.stores.Pairwise (fun first second => first.address < second.address) ∧
      run.address = Firmware.reached (Firmware.records lines) ∧
      ∃ finished, (Compilation.start device).feedAll lines = .ok finished ∧
        finished.script = script ∧ run.address = finished.cursor.address := by
  intro run
  obtain ⟨finished, accepted, same, geometry, simulates, whole⟩ :=
    Compilation.compile_simulates compiled
  have trace := simulates.trace
  rw [geometry] at trace
  have stored : run.stores =
      Firmware.stores (Firmware.dataRuns (Firmware.records lines)) :=
    congrArg Loader.Trace.stores trace
  have ended : run.address = finished.cursor.address :=
    congrArg Loader.Trace.address trace
  refine ⟨whole, stored, ?_, ?_, finished, accepted, same, ended⟩
  · rw [stored]
    exact simulates.ascending.ordered
  · rw [ended]
    exact simulates.follows.address

/-- A gap of three skips, an odd last byte and the jump to the config region. -/
theorem compile_preserves_stores_of_both_regions :
    ∃ script,
      Compilation.compile .pic16f1847
          [":03000000010203F7", "", ":040400001020304058", ":020000040001F9",
            ":03000E00AA3FBB4B", ":00000001FF"] = .ok script ∧
        script.listing.truncatedAt = none ∧
        Loader.run 0x8000 script.listing.instructions =
          { stores :=
              [{ address := 0x0000, word := { first := 0x01, second := 0x02 } },
                { address := 0x0200, word := { first := 0x10, second := 0x20 } },
                { address := 0x0201, word := { first := 0x30, second := 0x40 } },
                { address := 0x8007, word := { first := 0xAA, second := 0x3F } }]
            address := 0x8008 } := by
  obtain ⟨script, compiled⟩ := Compilation.compile_ok_iff.mpr
    (by decide : Firmware.firstFault Device.pic16f1847.geometry
      [":03000000010203F7", "", ":040400001020304058", ":020000040001F9",
        ":03000E00AA3FBB4B", ":00000001FF"] = none)
  obtain ⟨whole, stored, _, ended, _⟩ :=
    compile_preserves_stores .pic16f1847 _ script compiled
  refine ⟨script, compiled, whole, ?_⟩
  rw [Loader.Trace.mk.injEq]
  exact ⟨stored.trans (by decide), ended.trans (by decide)⟩

end FlashScript
