/-
The config region is entered once, and exactly in time.  Until a data record
asks for that region the loader stays below it; the first one that does is
preceded by the entry, and nothing after it leads out of the region again.
-/

import FlashScript.Proofs.Simulation

namespace FlashScript

/-! ### Runs that do not enter the region -/

namespace Loader

variable {configStart address : Nat} {instruction : Instruction}
  {instructions : List Instruction} {store : Store}

theorem le_next (other : instruction ≠ .enterConfig) :
    address ≤ next configStart address instruction := by
  cases instruction with
  | enterConfig => exact absurd rfl other
  | skip count => exact Nat.le_add_right address _
  | write words => exact Nat.le_add_right address _

theorem le_of_mem_stores (member : store ∈ stores address instruction) :
    address ≤ store.address := by
  cases instruction with
  | enterConfig => cases member
  | skip count => cases member
  | write words => exact (Store.address_of_mem_consecutive member).1

/-- Only an entry can lead the loader to where it has been. -/
theorem le_of_mem_runFrom (absent : .enterConfig ∉ instructions)
    (member : store ∈ (runFrom configStart address instructions).stores) :
    address ≤ store.address := by
  induction instructions generalizing address with
  | nil => cases member
  | cons instruction later inductionHypothesis =>
      have other : .enterConfig ≠ instruction := List.ne_of_not_mem_cons absent
      have absentLater : .enterConfig ∉ later := List.not_mem_of_not_mem_cons absent
      rcases List.mem_append.mp member with first | rest
      · exact le_of_mem_stores first
      · have forward : address ≤ next configStart address instruction :=
          le_next (Ne.symm other)
        exact Nat.le_trans forward (inductionHypothesis absentLater rest)

theorem stores_run_enterConfig (configStart : Nat) (before after : List Instruction) :
    (run configStart (before ++ .enterConfig :: after)).stores =
      (run configStart before).stores ++
        (runFrom configStart configStart after).stores := by
  rw [run, runFrom_append]
  rfl

end Loader

theorem Burst.enterConfig_not_mem_instructions {burst : Burst}
    (stays : burst.entersConfig = false) :
    .enterConfig ∉ burst.instructions := by
  rw [enterConfig_mem_instructions_iff, stays]
  exact Bool.false_ne_true

theorem Burst.instructions_of_enters {burst : Burst}
    (enters : burst.entersConfig = true) :
    burst.instructions =
      .enterConfig :: (skips burst.gap ++ writes burst.words) := by
  rw [instructions, if_pos enters, List.append_assoc, List.singleton_append]

/-! ### The record that enters the region -/

namespace Firmware

/-- The record is the first one that asks for the config region.  The
instructions before the entry do what the records before it ask for, and those
right after it do what the record itself asks for. -/
structure EntersFor (configStart : Nat) (earlier : List Record) (record : Record)
    (before own after : List Instruction) : Prop where
  data : record.recordType = 0
  inConfig : configStart ≤ effectiveAddress earlier record
  first : ∀ run ∈ dataRuns earlier, run.address < configStart
  arrival : (Loader.run configStart before).address ≤ configStart
  storesBefore : (Loader.run configStart before).stores = stores (dataRuns earlier)
  below : ∀ store ∈ (Loader.run configStart before).stores,
    store.address < configStart
  own_eq : own =
    Burst.skips (effectiveAddress earlier record - configStart) ++
      Burst.writes (Cursor.wholeWords record.payload)
  storesOwn : (Loader.runFrom configStart configStart own).stores =
    Store.consecutive (effectiveAddress earlier record)
      (Word.ofBytes record.payload)
  above : ∀ store ∈ (Loader.runFrom configStart configStart (own ++ after)).stores,
    configStart ≤ store.address

variable {configStart : Nat} {earlier : List Record} {record : Record}
  {before own after : List Instruction}

theorem stores_of_own (inConfig : configStart ≤ effectiveAddress earlier record) :
    (Loader.runFrom configStart configStart
        (Burst.skips (effectiveAddress earlier record - configStart) ++
          Burst.writes (Cursor.wholeWords record.payload))).stores =
      Store.consecutive (effectiveAddress earlier record)
        (Word.ofBytes record.payload) := by
  simp only [Loader.runFrom_append, Loader.runFrom_skips, Loader.runFrom_writes,
    List.nil_append, Nat.add_sub_cancel' inConfig, Cursor.ofBytes_wholeWords]

theorem enterConfig_not_mem_own (enters : EntersFor configStart earlier record
    before own after) : .enterConfig ∉ own := by
  rw [enters.own_eq]
  intro member
  rcases List.mem_append.mp member with skip | write
  · exact Burst.enterConfig_not_mem_skips _ skip
  · exact Burst.enterConfig_not_mem_writes _ write

/-- The instructions that follow do not matter as long as none is an entry. -/
theorem EntersFor.extend {longer : List Instruction}
    (enters : EntersFor configStart earlier record before own after)
    (absent : .enterConfig ∉ longer) :
    EntersFor configStart earlier record before own longer :=
  { enters with
    above := by
      intro store member
      refine Loader.le_of_mem_runFrom ?_ member
      intro entry
      rcases List.mem_append.mp entry with among | later
      · exact enterConfig_not_mem_own enters among
      · exact absent later }

end Firmware

/-! ### Before and after the entry -/

namespace Compilation

open Firmware (dataRuns effectiveAddress records EntersFor)

variable {compilation next : Compilation} {instructions : List Instruction}
  {earlier : List Record} {record : Record}

/-- Where a pass stands with regard to the config region. -/
inductive Phase (compilation : Compilation) (earlier : List Record)
    (instructions : List Instruction) : Prop where
  | outside
      (below : compilation.cursor.address < compilation.geometry.configStart)
      (runs : ∀ run ∈ dataRuns earlier,
        run.address < compilation.geometry.configStart)
      (absent : .enterConfig ∉ instructions)
  | inside {front : List Record} {first : Record} {back : List Record}
      {before own after : List Instruction}
      (text : earlier = front ++ first :: back)
      (split : instructions = before ++ .enterConfig :: (own ++ after))
      (within : compilation.geometry.configStart ≤ compilation.cursor.address)
      (absentBefore : .enterConfig ∉ before)
      (absentAfter : .enterConfig ∉ after)
      (enters : EntersFor compilation.geometry.configStart front first before own
        after)

theorem phase_start {geometry : Geometry} (roomy : geometry.Roomy) :
    (startOn geometry).Phase [] [] := by
  have apart := roomy.apart
  refine .outside ?_ nofun List.not_mem_nil
  change 0 < geometry.configStart
  omega

theorem Simulates.entersFor (simulates : compilation.Simulates earlier instructions)
    (below : compilation.cursor.address < compilation.geometry.configStart)
    (runs : ∀ run ∈ dataRuns earlier,
      run.address < compilation.geometry.configStart)
    (data : record.recordType = 0)
    (inConfig : compilation.geometry.configStart ≤ effectiveAddress earlier record) :
    EntersFor compilation.geometry.configStart earlier record instructions
      (Burst.skips (effectiveAddress earlier record -
          compilation.geometry.configStart) ++
        Burst.writes (Cursor.wholeWords record.payload)) [] where
  data := data
  inConfig := inConfig
  first := runs
  arrival := by
    rw [simulates.trace]
    exact Nat.le_of_lt below
  storesBefore := congrArg Loader.Trace.stores simulates.trace
  below := by
    rw [simulates.trace]
    intro store member
    have passed := simulates.ascending.below store member
    have ending := simulates.follows.address
    omega
  own_eq := rfl
  storesOwn := Firmware.stores_of_own inConfig
  above := by
    rw [List.append_nil, Firmware.stores_of_own inConfig]
    intro store member
    exact Nat.le_trans inConfig (Store.address_of_mem_consecutive member).1

theorem Phase.enter (simulates : compilation.Simulates earlier instructions)
    (below : compilation.cursor.address < compilation.geometry.configStart)
    (runs : ∀ run ∈ dataRuns earlier,
      run.address < compilation.geometry.configStart)
    (absent : .enterConfig ∉ instructions) (admits : compilation.Admits record)
    (inConfig : compilation.geometry.configStart ≤
      compilation.cursor.target record) :
    (compilation.program record).Phase (earlier ++ [record])
      (instructions ++ (compilation.burstOf record).instructions) := by
  have target := simulates.follows.target record
  have entry : compilation.cursor.entersConfig compilation.geometry
      (compilation.cursor.target record) = true :=
    Cursor.entersConfig_iff.mpr ⟨inConfig, below⟩
  have gap : (compilation.burstOf record).gap =
      effectiveAddress earlier record - compilation.geometry.configStart := by
    change compilation.cursor.target record -
      (compilation.cursor.arrive compilation.geometry
        (compilation.cursor.target record)).address = _
    rw [Cursor.arrive_of_enters entry, target]
  refine .inside rfl ?_ ?_ absent List.not_mem_nil
    (simulates.entersFor below runs admits.data (target ▸ inConfig))
  · rw [Burst.instructions_of_enters entry, gap, List.append_nil]
    rfl
  · exact Nat.le_trans inConfig (Nat.le_add_right _ _)

/-- A record in program memory ends before the config region. -/
theorem Phase.stayOutside (roomy : compilation.geometry.Roomy)
    (follows : compilation.cursor.Follows earlier)
    (runs : ∀ run ∈ dataRuns earlier,
      run.address < compilation.geometry.configStart)
    (absent : .enterConfig ∉ instructions) (admits : compilation.Admits record)
    (outside : compilation.cursor.target record <
      compilation.geometry.configStart) :
    (compilation.program record).Phase (earlier ++ [record])
      (instructions ++ (compilation.burstOf record).instructions) := by
  have apart := roomy.apart
  have inRegion := admits.inRegion
  have fits := record.payloadFits
  have target := follows.target record
  refine .outside ?_ ?_ ?_
  · change compilation.cursor.target record + record.payload.length / 2 <
      compilation.geometry.configStart
    simp only [Geometry.overrun] at apart
    omega
  · rw [Firmware.dataRuns_append_data admits.data]
    intro run member
    rcases List.mem_append.mp member with among | last
    · exact runs run among
    · rw [List.mem_singleton.mp last]
      change effectiveAddress earlier record < compilation.geometry.configStart
      omega
  · have stays : (compilation.burstOf record).entersConfig = false := by
      apply Cursor.entersConfig_eq_false_iff.mpr
      omega
    intro member
    rcases List.mem_append.mp member with among | added
    · exact absent among
    · exact Burst.enterConfig_not_mem_instructions stays added

theorem Phase.program (phase : compilation.Phase earlier instructions)
    (roomy : compilation.geometry.Roomy)
    (simulates : compilation.Simulates earlier instructions)
    (admits : compilation.Admits record) :
    (compilation.program record).Phase (earlier ++ [record])
      (instructions ++ (compilation.burstOf record).instructions) := by
  cases phase with
  | outside below runs absent =>
      by_cases inConfig : compilation.geometry.configStart ≤
          compilation.cursor.target record
      · exact Phase.enter simulates below runs absent admits inConfig
      · exact Phase.stayOutside roomy simulates.follows runs absent admits
          (Nat.lt_of_not_le inConfig)
  | @inside front first back before own after text split within absentBefore
      absentAfter enters =>
      have forward := admits.forward
      have stays : (compilation.burstOf record).entersConfig = false := by
        apply Cursor.entersConfig_eq_false_iff.mpr
        omega
      have absentLonger :
          .enterConfig ∉ after ++ (compilation.burstOf record).instructions := by
        intro member
        rcases List.mem_append.mp member with among | added
        · exact absentAfter among
        · exact Burst.enterConfig_not_mem_instructions stays added
      have longerText : earlier ++ [record] = front ++ first :: (back ++ [record]) := by
        rw [text, List.append_assoc, List.cons_append]
      refine .inside longerText ?_ ?_ absentBefore absentLonger
        (enters.extend absentLonger)
      · rw [split, List.append_assoc, List.cons_append, List.append_assoc]
      · exact Nat.le_trans (Nat.le_trans within forward) (Nat.le_add_right _ _)

theorem Phase.moveTo {cursor : Cursor}
    (phase : compilation.Phase earlier instructions)
    (other : record.recordType ≠ 0)
    (still : cursor.address = compilation.cursor.address) :
    (compilation.moveTo cursor).Phase (earlier ++ [record]) instructions := by
  cases phase with
  | outside below runs absent =>
      refine .outside ?_ ?_ absent
      · exact Nat.lt_of_le_of_lt (Nat.le_of_eq still) below
      · rw [Firmware.dataRuns_append_other other]
        exact runs
  | @inside front first back before own after text split within absentBefore
      absentAfter enters =>
      have longerText : earlier ++ [record] = front ++ first :: (back ++ [record]) := by
        rw [text, List.append_assoc, List.cons_append]
      exact .inside longerText split (Nat.le_trans within (Nat.le_of_eq still.symm))
        absentBefore absentAfter enters

theorem Phase.count (phase : compilation.Phase earlier instructions) :
    compilation.count.Phase earlier instructions := by
  cases phase with
  | outside below runs absent => exact .outside below runs absent
  | inside text split within absentBefore absentAfter enters =>
      exact .inside text split within absentBefore absentAfter enters

theorem Phase.fed (phase : compilation.Phase earlier instructions)
    (roomy : compilation.geometry.Roomy)
    (simulates : compilation.Simulates earlier instructions)
    (came : Fed compilation record next (.ok ())) :
    next.Phase (earlier ++ [record])
      (instructions ++ compilation.emitted record) := by
  rcases came.accepted with ⟨admits, rfl⟩ | ⟨other, cursor, rfl, still⟩
  · rw [emitted_data admits.data]
    exact phase.program roomy simulates admits
  · rw [emitted_other other, List.append_nil]
    exact phase.moveTo other still

theorem Phase.count_enterConfig (phase : compilation.Phase earlier instructions) :
    instructions.count .enterConfig =
      if ∃ run ∈ dataRuns earlier, compilation.geometry.configStart ≤ run.address
        then 1 else 0 := by
  cases phase with
  | outside below runs absent =>
      rw [if_neg, List.count_eq_zero.mpr absent]
      intro ⟨run, member, inConfig⟩
      exact absurd inConfig (Nat.not_le_of_lt (runs run member))
  | @inside front first back before own after text split within absentBefore
      absentAfter enters =>
      have among : Firmware.runOf front first ∈ dataRuns earlier := by
        rw [text, List.append_cons, dataRuns, Firmware.dataRunsAfter_append,
          ← dataRuns, Firmware.dataRuns_append_data enters.data]
        simp
      rw [if_pos ⟨_, among, enters.inConfig⟩, split, List.count_append,
        List.count_cons_self, List.count_append,
        List.count_eq_zero.mpr absentBefore,
        List.count_eq_zero.mpr (Firmware.enterConfig_not_mem_own enters),
        List.count_eq_zero.mpr absentAfter]

/-- Where a pass over the lines of a device stands. -/
structure Stands (compilation : Compilation) (earlier : List Record)
    (instructions : List Instruction) : Prop where
  roomy : compilation.geometry.Roomy
  simulates : compilation.Simulates earlier instructions
  phase : compilation.Phase earlier instructions

theorem stands_start (device : Device) : (start device).Stands [] [] where
  roomy := device.roomy
  simulates := simulates_start device.geometry
  phase := phase_start device.roomy

theorem Stands.count (stands : compilation.Stands earlier instructions) :
    compilation.count.Stands earlier instructions where
  roomy := stands.roomy
  simulates := simulates_count stands.simulates
  phase := stands.phase.count

theorem Stands.fed (stands : compilation.Stands earlier instructions)
    (came : Fed compilation record next (.ok ())) :
    next.Stands (earlier ++ [record])
      (instructions ++ compilation.emitted record) where
  roomy := by
    rw [came.geometry]
    exact stands.roomy
  simulates := stands.simulates.fed came
  phase := stands.phase.fed stands.roomy stands.simulates came

theorem compile_stands {device : Device} {lines : List String} {script : Script}
    (compiled : compile device lines = .ok script) :
    ∃ finished : Compilation, finished.geometry = device.geometry ∧
      finished.Stands (records lines) script.listing.instructions := by
  obtain ⟨finished, accepted, same⟩ := compile_ok compiled
  obtain ⟨instructions, stands⟩ := feedAll_accepted
    (fun reached earlier => ∃ instructions, reached.Stands earlier instructions)
    (fun _ _ ⟨instructions, stands⟩ => ⟨instructions, stands.count⟩)
    (fun _ _ _ _ ⟨_, stands⟩ came => ⟨_, stands.fed came⟩)
    [] accepted ⟨[], stands_start device⟩
  have listing := stands.simulates.lists.listing_eq
  rw [same] at listing
  rw [listing]
  exact ⟨finished, geometry_feedAll accepted, stands⟩

end Compilation

/-- The config region is entered once if a data record of the text asks for it
and never otherwise.  The entry stands right before the instructions of the
first such record; the loader is not past the region's start then, and has
stored below it before and stores from it on afterwards. -/
theorem config_region_entered_once (device : Device) (lines : List String)
    (script : Script) (compiled : Compilation.compile device lines = .ok script) :
    let configStart := device.geometry.configStart
    let instructions := script.listing.instructions
    let records := Firmware.records lines
    instructions.count .enterConfig =
        (if ∃ run ∈ Firmware.dataRuns records, configStart ≤ run.address
          then 1 else 0) ∧
      (.enterConfig ∈ instructions →
        ∃ earlier record later before own after,
          records = earlier ++ record :: later ∧
            instructions = before ++ .enterConfig :: (own ++ after) ∧
            (Loader.run configStart instructions).stores =
              (Loader.run configStart before).stores ++
                (Loader.runFrom configStart configStart (own ++ after)).stores ∧
            Firmware.EntersFor configStart earlier record before own after) := by
  intro configStart instructions records
  obtain ⟨finished, geometry, stands⟩ := Compilation.compile_stands compiled
  have phase := stands.phase
  have count := phase.count_enterConfig
  rw [geometry] at count
  refine ⟨count, ?_⟩
  intro entered
  cases phase with
  | outside below runs absent => exact absurd entered absent
  | @inside front first back before own after text split within absentBefore
      absentAfter enters =>
      rw [geometry] at enters
      refine ⟨front, first, back, before, own, after, text, split, ?_, enters⟩
      change (Loader.run configStart script.listing.instructions).stores = _
      rw [split, Loader.stores_run_enterConfig]

/-- A record that runs over the end of program memory, then two records of the
config region, of which only the first one is preceded by an entry. -/
theorem config_region_entered_once_for_two_records :
    let lines := [":041FFE001122334435", ":02400000843109", ":02400E008431FB"]
    ∃ script,
      Compilation.compile .pic16f690 lines = .ok script ∧
        script.listing.instructions.count .enterConfig = 1 ∧
        ∃ earlier record later before own after,
          Firmware.records lines = earlier ++ record :: later ∧
            script.listing.instructions = before ++ .enterConfig :: (own ++ after) ∧
            Firmware.EntersFor 0x2000 earlier record before own after := by
  intro lines
  obtain ⟨script, compiled⟩ := Compilation.compile_ok_iff.mpr
    (by decide : Firmware.firstFault Device.pic16f690.geometry lines = none)
  have entered := config_region_entered_once .pic16f690 lines script compiled
  have once : script.listing.instructions.count .enterConfig = 1 :=
    entered.1.trans (if_pos (by decide))
  obtain ⟨earlier, record, later, before, own, after, text, split, _, enters⟩ :=
    entered.2 (List.count_pos_iff.mp (Nat.lt_of_lt_of_eq Nat.one_pos once.symm))
  exact ⟨script, compiled, once, earlier, record, later, before, own, after, text,
    split, enters⟩

end FlashScript
