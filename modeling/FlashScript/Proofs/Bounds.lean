/-
Which words of an accepted text lie in a region of the device.  The first word
of a data record always does, since only that one is looked at; those after it
do exactly when the record ends in the region that it begins in.  A record is
short enough to run over the end of a region by little, and never from program
memory into the config region.
-/

import FlashScript.Proofs.Simulation

namespace FlashScript

/-- Word addresses of program memory and of the config region. -/
def Geometry.Holds (geometry : Geometry) (address : Nat) : Prop :=
  address < geometry.programLimit ∨
    geometry.configStart ≤ address ∧ address < geometry.spaceLimit

instance (geometry : Geometry) (address : Nat) :
    Decidable (geometry.Holds address) :=
  inferInstanceAs (Decidable (_ ∨ _))

namespace DataRun

variable {geometry : Geometry} {run : DataRun}

/-- The words end in the region that they begin in. -/
def Fits (geometry : Geometry) (run : DataRun) : Prop :=
  run.limit ≤ geometry.programLimit ∨
    geometry.configStart ≤ run.address ∧ run.limit ≤ geometry.spaceLimit

instance (geometry : Geometry) (run : DataRun) : Decidable (run.Fits geometry) :=
  inferInstanceAs (Decidable (_ ∨ _))

/-- What is known of the words of a data record that was accepted. -/
structure Accepted (geometry : Geometry) (run : DataRun) : Prop where
  begins : geometry.Holds run.address
  filled : 0 < run.words.length
  short : run.words.length ≤ Geometry.overrun + 1

theorem Accepted.holds_iff (accepted : run.Accepted geometry)
    (roomy : geometry.Roomy) :
    (∀ store ∈ Store.consecutive run.address run.words,
        geometry.Holds store.address) ↔ run.Fits geometry := by
  have apart := roomy.apart
  have filled := accepted.filled
  have short := accepted.short
  have limit : run.limit = run.address + run.words.length := rfl
  constructor
  · -- Where the last word is decides it, since no record spans both regions.
    intro holds
    have above : run.address ≤ run.limit - 1 := by omega
    have below : run.limit - 1 < run.address + run.words.length := by omega
    obtain ⟨last, member, place⟩ := Store.exists_mem_consecutive above below
    have held := holds last member
    rw [place] at held
    rcases accepted.begins with inProgram | ⟨inConfig, inSpace⟩
    · rcases held with below | ⟨above, _⟩
      · exact Or.inl (by omega)
      · omega
    · rcases held with below | ⟨_, below⟩
      · omega
      · exact Or.inr ⟨inConfig, by omega⟩
  · intro fits store member
    obtain ⟨above, below⟩ := Store.address_of_mem_consecutive member
    rcases fits with inProgram | ⟨inConfig, inSpace⟩
    · exact Or.inl (by omega)
    · exact Or.inr ⟨by omega, by omega⟩

/-- No word is further from its region than the rest of one record. -/
theorem Accepted.near (accepted : run.Accepted geometry) {store : Store}
    (member : store ∈ Store.consecutive run.address run.words) :
    store.address < geometry.programLimit + Geometry.overrun ∨
      geometry.configStart ≤ store.address ∧
        store.address < geometry.spaceLimit + Geometry.overrun := by
  obtain ⟨above, below⟩ := Store.address_of_mem_consecutive member
  have short := accepted.short
  rcases accepted.begins with inProgram | ⟨inConfig, inSpace⟩
  · exact Or.inl (by omega)
  · exact Or.inr ⟨by omega, by omega⟩

end DataRun

namespace Compilation

open Firmware (dataRuns records runOf)

variable {compilation : Compilation} {earlier : List Record} {record : Record}

theorem accepted_runOf (admits : compilation.Admits record)
    (follows : compilation.cursor.Follows earlier) :
    (runOf earlier record).Accepted compilation.geometry := by
  have inSpace := admits.inSpace
  have inRegion := admits.inRegion
  have filled := admits.filled
  have fits := record.payloadFits
  rw [follows.target] at inSpace inRegion
  have length : (runOf earlier record).words.length = record.payload.length / 2 :=
    Word.length_ofBytes record.payload
  constructor
  · rcases inRegion with inProgram | inConfig
    · exact Or.inl inProgram
    · exact Or.inr ⟨inConfig, inSpace⟩
  · omega
  · rw [length, Geometry.overrun]
    omega

theorem accepted_of_feedAll {geometry : Geometry} {lines : List String}
    {finished : Compilation}
    (passed : (startOn geometry).feedAll lines = .ok finished) :
    ∀ run ∈ dataRuns (records lines), run.Accepted geometry := by
  have whole := feedAll_accepted
    (fun reached earlier => reached.geometry = geometry ∧
      reached.cursor.Follows earlier ∧
      ∀ run ∈ dataRuns earlier, run.Accepted geometry)
    ?_ ?_ [] passed ⟨rfl, Cursor.follows_start, nofun⟩
  · exact whole.2.2
  · intro reached earlier holds
    exact holds
  · intro reached earlier record next ⟨same, follows, accepted⟩ came
    refine ⟨came.geometry.trans same,
      follows_fed reached earlier record next follows came, ?_⟩
    intro run member
    rcases came.accepted with ⟨admits, _⟩ | ⟨other, _⟩
    · rw [Firmware.dataRuns_append_data admits.data] at member
      rcases List.mem_append.mp member with among | last
      · exact accepted run among
      · rw [List.mem_singleton.mp last, ← same]
        exact accepted_runOf admits follows
    · rw [Firmware.dataRuns_append_other other] at member
      exact accepted run member

theorem mem_stores_of_compile {device : Device} {lines : List String}
    {script : Script} (compiled : compile device lines = .ok script) (store : Store) :
    store ∈ (Loader.run device.geometry.configStart
        script.listing.instructions).stores ↔
      ∃ run ∈ dataRuns (records lines),
        store ∈ Store.consecutive run.address run.words := by
  rw [trace_of_compile compiled]
  exact List.mem_flatMap

end Compilation

/-- The words of a compiled text are all in a region of the device exactly when
each data record of it ends in the region that it begins in. -/
theorem stores_in_regions_iff (device : Device) (lines : List String)
    (script : Script) (compiled : Compilation.compile device lines = .ok script) :
    let stored :=
      (Loader.run device.geometry.configStart script.listing.instructions).stores
    let runs := Firmware.dataRuns (Firmware.records lines)
    (∀ run ∈ runs, device.geometry.Holds run.address) ∧
      ((∀ store ∈ stored, device.geometry.Holds store.address) ↔
        ∀ run ∈ runs, run.Fits device.geometry) ∧
      ∀ store ∈ stored,
        store.address < device.geometry.programLimit + Geometry.overrun ∨
          device.geometry.configStart ≤ store.address ∧
            store.address < device.geometry.spaceLimit + Geometry.overrun := by
  intro stored runs
  obtain ⟨finished, passed, _⟩ := Compilation.compile_ok compiled
  have accepted : ∀ run ∈ runs, run.Accepted device.geometry :=
    Compilation.accepted_of_feedAll passed
  have member := Compilation.mem_stores_of_compile compiled
  refine ⟨fun run among => (accepted run among).begins, ?_, ?_⟩
  · constructor
    · intro holds run among
      rw [← (accepted run among).holds_iff device.roomy]
      intro store own
      exact holds store ((member store).mpr ⟨run, among, own⟩)
    · intro fits store among
      obtain ⟨run, amongRuns, own⟩ := (member store).mp among
      exact ((accepted run amongRuns).holds_iff device.roomy).mpr
        (fits run amongRuns) store own
  · intro store among
    obtain ⟨run, amongRuns, own⟩ := (member store).mp among
    exact (accepted run amongRuns).near own

/-- Up to the last word of program memory, and a word of the config region. -/
theorem stores_in_regions_to_the_last_word :
    ∃ script,
      Compilation.compile .pic12f675 [":0407FC00AABBCCDDEB", ":02400E008431FB"] =
          .ok script ∧
        ∀ store ∈ (Loader.run 0x2000 script.listing.instructions).stores,
          store.address < 0x0400 ∨ 0x2000 ≤ store.address ∧ store.address < 0x2008 := by
  obtain ⟨script, compiled⟩ := Compilation.compile_ok_iff.mpr
    (by decide : Firmware.firstFault Device.pic12f675.geometry
      [":0407FC00AABBCCDDEB", ":02400E008431FB"] = none)
  have bounds := stores_in_regions_iff .pic12f675 _ script compiled
  exact ⟨script, compiled, bounds.2.1.mpr (by decide)⟩

/-- A record that begins on the last word of program memory is accepted with a
second word, which lies in no region; as a record of its own that word is
refused. -/
theorem store_past_program_memory :
    ¬ (∀ (device : Device) (lines : List String) (script : Script),
        Compilation.compile device lines = .ok script →
          ∀ store ∈ (Loader.run device.geometry.configStart
              script.listing.instructions).stores,
            device.geometry.Holds store.address) ∧
      (∃ script,
        Compilation.compile .pic12f675 [":0407FE00AABBCCDDE9"] = .ok script ∧
          { address := 0x0400, word := { first := 0xCC, second := 0xDD } } ∈
            (Loader.run 0x2000 script.listing.instructions).stores) ∧
      Compilation.compile .pic12f675 [":0207FE00AABB94", ":02080000CCDD4D"] =
        .error
          { line := 2
            content := ":02080000CCDD4D"
            error := .placement (.outOfProgramMemory 0x0400) } := by
  obtain ⟨script, compiled⟩ := Compilation.compile_ok_iff.mpr
    (by decide : Firmware.firstFault Device.pic12f675.geometry
      [":0407FE00AABBCCDDE9"] = none)
  have stored := (Compilation.mem_stores_of_compile compiled
    { address := 0x0400, word := { first := 0xCC, second := 0xDD } }).mpr (by decide)
  refine ⟨?_, ⟨script, compiled, stored⟩, Compilation.compile_error_iff.mpr (by decide)⟩
  intro bounded
  have held := bounded .pic12f675 _ script compiled _ stored
  exact absurd held (by decide)

end FlashScript
