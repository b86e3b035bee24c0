/-
The numbers of a summary, said of the text.  A script has one write for each data
record, the skips that its gaps take and at most one entry; with the header these
are all of its bytes.
-/

import Mathlib.Algebra.GroupWithZero.Nat
import FlashScript.Script
import FlashScript.Proofs.Canonical
import FlashScript.Proofs.Entry

namespace FlashScript

open Instruction (totalLength)

/-! ### Counting instructions -/

namespace Instruction

def isSkip : Instruction → Bool
  | .skip _ => true
  | _ => false

end Instruction

namespace Loader

variable (configStart address : Nat)

/-- Words of the runs that instructions write. -/
def wordsFrom (instructions : List Instruction) : Nat :=
  ((runsFrom configStart address instructions).map (fun run => run.words.length)).sum

theorem wordsFrom_cons (instruction : Instruction) (later : List Instruction) :
    wordsFrom configStart address (instruction :: later) =
      ((written address instruction).map (fun run => run.words.length)).sum +
        wordsFrom configStart (next configStart address instruction) later := by
  rw [wordsFrom, runsFrom, List.map_append, List.sum_append]
  rfl

theorem length_runsFrom_cons (instruction : Instruction) (later : List Instruction) :
    (runsFrom configStart address (instruction :: later)).length =
      (written address instruction).length +
        (runsFrom configStart (next configStart address instruction) later).length := by
  rw [runsFrom, List.length_append]

end Loader

namespace Summary

open Instruction (isSkip)
open Loader (runsFrom wordsFrom)

variable {instructions : List Instruction}

/-- Wherever the loader is, each write is one of the runs that it reads. -/
theorem foldl_add_eq (configStart address : Nat) (instructions : List Instruction)
    (summary : Summary) :
    instructions.foldl add summary =
      { bytes := summary.bytes
        words := summary.words + wordsFrom configStart address instructions
        writes := summary.writes + (runsFrom configStart address instructions).length
        skips := summary.skips + instructions.countP isSkip
        config := summary.config || decide (.enterConfig ∈ instructions) } := by
  induction instructions generalizing address summary with
  | nil => simp [wordsFrom, runsFrom]
  | cons instruction later inductionHypothesis =>
      rw [List.foldl_cons,
        inductionHypothesis (Loader.next configStart address instruction),
        Loader.wordsFrom_cons, Loader.length_runsFrom_cons, List.countP_cons]
      cases instruction with
      | enterConfig => simp [add, Loader.written, isSkip]
      | skip count => simp [add, Loader.written, isSkip, Nat.add_assoc, Nat.add_comm 1]
      | write words => simp [add, Loader.written, isSkip, Nat.add_assoc]

theorem ofInstructions_eq (configStart address bytes : Nat)
    (instructions : List Instruction) :
    ofInstructions bytes instructions =
      { bytes := bytes
        words := wordsFrom configStart address instructions
        writes := (runsFrom configStart address instructions).length
        skips := instructions.countP isSkip
        config := decide (.enterConfig ∈ instructions) } := by
  rw [ofInstructions, foldl_add_eq configStart address, Nat.zero_add, Nat.zero_add,
    Nat.zero_add, Bool.false_or]

theorem encodedLength_eq {instruction : Instruction} (legal : instruction.Legal)
    (address : Nat) :
    instruction.encodedLength =
      2 * [instruction].count .enterConfig + 2 * [instruction].countP isSkip +
        (Loader.written address instruction).length +
        2 * ((Loader.written address instruction).map
          (fun run => run.words.length)).sum := by
  cases instruction with
  | enterConfig => rfl
  | skip count => rfl
  | write words =>
      have even := legal.1
      have own : ((Loader.written address (.write words)).map
          (fun run => run.words.length)).sum = words.length / 2 :=
        Word.length_ofBytes words
      have one : (Loader.written address (.write words)).length = 1 := rfl
      have noEntry : [Instruction.write words].count .enterConfig = 0 := rfl
      have noSkip : [Instruction.write words].countP isSkip = 0 := rfl
      rw [own, one, noEntry, noSkip, Instruction.encodedLength]
      omega

/-- The bytes of legal instructions, by what a summary counts of them. -/
theorem totalLength_eq (configStart address : Nat)
    (legal : ∀ instruction ∈ instructions, instruction.Legal) :
    totalLength instructions =
      2 * instructions.count .enterConfig + 2 * instructions.countP isSkip +
        (runsFrom configStart address instructions).length +
        2 * wordsFrom configStart address instructions := by
  induction instructions generalizing address with
  | nil => rfl
  | cons instruction later inductionHypothesis =>
      rcases List.forall_mem_cons.mp legal with ⟨first, rest⟩
      have counted := inductionHypothesis (Loader.next configStart address instruction) rest
      have split : instruction :: later = [instruction] ++ later := rfl
      rw [Instruction.totalLength_cons, encodedLength_eq first address, counted,
        Loader.wordsFrom_cons, Loader.length_runsFrom_cons, split, List.count_append,
        List.countP_append]
      omega

end Summary

/-! ### Gaps of a text -/

namespace DataRun

/-- Words that nothing is stored in, up to the first word of a run. -/
structure Gap where
  start : Nat
  limit : Nat

/-- One skip for every 255 words that have begun. -/
def Gap.skips (gap : Gap) : Nat :=
  (gap.limit - gap.start + 254) / 255

/-- A gap begins where the run before it ends, and at the start of the config
region if its run is the first one there. -/
def gapAfter (configStart : Nat) (earlier : List DataRun) (run : DataRun) : Gap :=
  { start :=
      if configStart ≤ run.address ∧ ∀ before ∈ earlier, before.address < configStart
      then configStart
      else reachedFrom 0 earlier
    limit := run.address }

def gapsAfter (configStart : Nat) (earlier : List DataRun) : List DataRun → List Gap
  | [] => []
  | run :: later =>
      gapAfter configStart earlier run :: gapsAfter configStart (earlier ++ [run]) later

/-- The gaps before runs, one for each. -/
def gaps (configStart : Nat) (runs : List DataRun) : List Gap :=
  gapsAfter configStart [] runs

theorem gapsAfter_concat (configStart : Nat) (earlier runs : List DataRun)
    (run : DataRun) :
    gapsAfter configStart earlier (runs ++ [run]) =
      gapsAfter configStart earlier runs ++
        [gapAfter configStart (earlier ++ runs) run] := by
  induction runs generalizing earlier with
  | nil => rw [List.nil_append, List.append_nil, gapsAfter, gapsAfter, gapsAfter,
      List.nil_append]
  | cons first later inductionHypothesis =>
      rw [List.cons_append, gapsAfter, gapsAfter, inductionHypothesis,
        List.append_assoc, List.singleton_append, List.cons_append]

theorem gaps_concat (configStart : Nat) (runs : List DataRun) (run : DataRun) :
    gaps configStart (runs ++ [run]) =
      gaps configStart runs ++ [gapAfter configStart runs run] :=
  gapsAfter_concat configStart [] runs run

end DataRun

namespace Burst

open Instruction (isSkip)

theorem countP_isSkip_skips (gap : Nat) :
    (skips gap).countP isSkip = (gap + 254) / 255 := by
  induction gap using skips_induction with
  | none => rfl
  | last gap count value =>
      have positive := SkipCount.toNat_pos count
      have bounded := count.val.toNat_lt
      rw [List.countP_cons_of_pos rfl, List.countP_nil]
      omega
  | longest gap later inductionHypothesis =>
      rw [List.countP_cons_of_pos rfl, inductionHypothesis]
      omega

theorem countP_isSkip_writes (words : List UInt8) :
    (writes words).countP isSkip = 0 := by
  induction words using writes_induction with
  | nil => rfl
  | cons words later nonempty inductionHypothesis =>
      rw [List.countP_cons_of_neg Bool.false_ne_true, inductionHypothesis]

theorem countP_isSkip_instructions (burst : Burst) :
    burst.instructions.countP isSkip = (burst.gap + 254) / 255 := by
  rw [instructions, List.countP_append, List.countP_append, countP_isSkip_skips,
    countP_isSkip_writes]
  cases burst.entersConfig <;> exact Nat.zero_add _

end Burst

/-! ### A pass over the lines -/

namespace Compilation

open DataRun (Gap gaps gapAfter)
open Firmware (dataRuns records runOf)
open Instruction (isSkip)

variable {compilation next : Compilation} {instructions : List Instruction}
  {earlier : List Record} {record : Record}

/-- The cursor is in the config region once a run is. -/
theorem Phase.below_iff (phase : compilation.Phase earlier instructions) :
    compilation.cursor.address < compilation.geometry.configStart ↔
      ∀ run ∈ dataRuns earlier, run.address < compilation.geometry.configStart := by
  cases phase with
  | outside below runs absent => exact iff_of_true below runs
  | @inside front first back before own after text split within absentBefore
      absentAfter enters =>
      refine iff_of_false (Nat.not_lt_of_le within) ?_
      intro runs
      have among : runOf front first ∈ dataRuns earlier := by
        rw [text, List.append_cons, dataRuns, Firmware.dataRunsAfter_append,
          ← dataRuns, Firmware.dataRuns_append_data enters.data]
        simp
      exact absurd enters.inConfig (Nat.not_le_of_lt (runs _ among))

theorem Phase.mem_enterConfig_iff (phase : compilation.Phase earlier instructions) :
    .enterConfig ∈ instructions ↔
      ∃ run ∈ dataRuns earlier, compilation.geometry.configStart ≤ run.address := by
  rw [← List.count_pos_iff, phase.count_enterConfig]
  split
  · rename_i some
    exact iff_of_true Nat.one_pos some
  · rename_i none
    exact iff_of_false (Nat.lt_irrefl 0) none

theorem Phase.count_enterConfig_eq_toNat
    (phase : compilation.Phase earlier instructions) :
    instructions.count .enterConfig =
      (decide (.enterConfig ∈ instructions)).toNat := by
  have entered := phase.mem_enterConfig_iff
  rw [phase.count_enterConfig]
  split
  · rename_i some
    rw [decide_eq_true (entered.mpr some)]
    rfl
  · rename_i none
    rw [decide_eq_false (mt entered.mp none)]
    rfl

/-- The gap of a burst is that before its run. -/
theorem Phase.gapAfter_runOf (phase : compilation.Phase earlier instructions)
    (follows : compilation.cursor.Follows earlier) (record : Record) :
    gapAfter compilation.geometry.configStart (dataRuns earlier) (runOf earlier record) =
      { start := (compilation.cursor.arrive compilation.geometry
          (compilation.cursor.target record)).address
        limit := compilation.cursor.target record } := by
  have target : (runOf earlier record).address = compilation.cursor.target record :=
    (follows.target record).symm
  have enters : compilation.cursor.entersConfig compilation.geometry
      (compilation.cursor.target record) = true ↔
        compilation.geometry.configStart ≤ compilation.cursor.target record ∧
          ∀ run ∈ dataRuns earlier, run.address < compilation.geometry.configStart := by
    rw [Cursor.entersConfig_iff, phase.below_iff]
  rw [gapAfter, target]
  split
  · rename_i first
    rw [Cursor.arrive_of_enters (enters.mpr first)]
  · rename_i later
    rw [Cursor.arrive_of_stays (Bool.eq_false_iff.mpr (mt enters.mp later)),
      DataRun.reachedFrom_dataRuns, follows.address]

/-- Skips are counted gap by gap, and no gap is passed over backwards. -/
structure Accounts (compilation : Compilation) (earlier : List Record)
    (instructions : List Instruction) : Prop where
  skips : instructions.countP isSkip =
    ((gaps compilation.geometry.configStart (dataRuns earlier)).map Gap.skips).sum
  forward : ∀ gap ∈ gaps compilation.geometry.configStart (dataRuns earlier),
    gap.start ≤ gap.limit

theorem accounts_start (geometry : Geometry) : (startOn geometry).Accounts [] [] where
  skips := rfl
  forward := nofun

theorem Accounts.program (accounts : compilation.Accounts earlier instructions)
    (phase : compilation.Phase earlier instructions)
    (follows : compilation.cursor.Follows earlier) (admits : compilation.Admits record) :
    (compilation.program record).Accounts (earlier ++ [record])
      (instructions ++ (compilation.burstOf record).instructions) where
  skips := by
    have skips := accounts.skips
    change _ = ((gaps compilation.geometry.configStart _).map Gap.skips).sum
    rw [Firmware.dataRuns_append_data admits.data, DataRun.gaps_concat, List.map_append,
      List.sum_append, List.countP_append, Burst.countP_isSkip_instructions, skips,
      phase.gapAfter_runOf follows]
    rfl
  forward := by
    have forward := admits.forward
    change ∀ gap ∈ gaps compilation.geometry.configStart _, gap.start ≤ gap.limit
    rw [Firmware.dataRuns_append_data admits.data, DataRun.gaps_concat,
      phase.gapAfter_runOf follows]
    intro gap member
    rcases List.mem_append.mp member with among | last
    · exact accounts.forward gap among
    · rw [List.mem_singleton.mp last]
      exact Nat.le_of_not_lt (fun behind =>
        Nat.not_lt_of_le forward (Cursor.lt_address_arrive_iff.mp behind))

theorem Accounts.moveTo {cursor : Cursor}
    (accounts : compilation.Accounts earlier instructions)
    (other : record.recordType ≠ 0) :
    (compilation.moveTo cursor).Accounts (earlier ++ [record]) instructions where
  skips := by
    rw [Firmware.dataRuns_append_other other]
    exact accounts.skips
  forward := by
    rw [Firmware.dataRuns_append_other other]
    exact accounts.forward

theorem Accounts.fed (accounts : compilation.Accounts earlier instructions)
    (stands : compilation.Stands earlier instructions)
    (came : Fed compilation record next (.ok ())) :
    next.Accounts (earlier ++ [record])
      (instructions ++ compilation.emitted record) := by
  rcases came.accepted with ⟨admits, rfl⟩ | ⟨other, cursor, rfl, still⟩
  · rw [emitted_data admits.data]
    exact accounts.program stands.phase stands.simulates.follows admits
  · rw [emitted_other other, List.append_nil]
    exact accounts.moveTo other

theorem compile_accounts {device : Device} {lines : List String} {script : Script}
    (compiled : compile device lines = .ok script) :
    ∃ finished : Compilation, finished.geometry = device.geometry ∧
      finished.Stands (records lines) script.listing.instructions ∧
      finished.Accounts (records lines) script.listing.instructions := by
  obtain ⟨finished, accepted, same⟩ := compile_ok compiled
  have whole := feedAll_accepted
    (fun reached earlier => ∃ instructions,
      reached.Stands earlier instructions ∧ reached.Accounts earlier instructions)
    ?_ ?_ [] accepted ⟨[], stands_start device, accounts_start device.geometry⟩
  · obtain ⟨instructions, stands, accounts⟩ := whole
    have listing := stands.simulates.lists.listing_eq
    rw [same] at listing
    rw [listing]
    exact ⟨finished, geometry_feedAll accepted, stands, accounts⟩
  · intro reached earlier ⟨instructions, stands, accounts⟩
    exact ⟨instructions, stands.count, accounts.skips, accounts.forward⟩
  · intro reached earlier record next ⟨instructions, stands, accounts⟩ came
    exact ⟨_, stands.fed came, accounts.fed stands came⟩

/-- The writes of a script are the runs of its text, one for one. -/
theorem runsFrom_of_compile {device : Device} {lines : List String} {script : Script}
    (compiled : compile device lines = .ok script) :
    Loader.runsFrom device.geometry.configStart 0 script.listing.instructions =
      dataRuns (records lines) := by
  obtain ⟨instructions, rfl, legal, _, read⟩ := compile_renders compiled
  have lists := (Script.lists_empty device.geometry.deviceId).appendAll legal
  rw [lists.listing_eq]
  exact read

end Compilation

namespace Firmware

def dataRecords (records : List Record) : List Record :=
  records.filter (fun record => record.recordType = 0)

theorem dataRecords_cons_data {record : Record} (data : record.recordType = 0)
    (later : List Record) :
    dataRecords (record :: later) = record :: dataRecords later :=
  List.filter_cons_of_pos (decide_eq_true data)

theorem dataRecords_cons_other {record : Record} (other : record.recordType ≠ 0)
    (later : List Record) : dataRecords (record :: later) = dataRecords later :=
  List.filter_cons_of_neg (mt of_decide_eq_true other)

theorem map_length_dataRunsAfter (earlier records : List Record) :
    (dataRunsAfter earlier records).map (fun run => run.words.length) =
      (dataRecords records).map (fun record => record.payload.length / 2) := by
  induction records generalizing earlier with
  | nil => rfl
  | cons record later inductionHypothesis =>
      rw [dataRunsAfter]
      by_cases data : record.recordType = 0
      · rw [if_pos data, dataRecords_cons_data data, List.map_cons, List.map_cons,
          inductionHypothesis, Word.length_ofBytes]
      · rw [if_neg data, dataRecords_cons_other data, inductionHypothesis]

theorem length_dataRuns (records : List Record) :
    (dataRuns records).length = (dataRecords records).length := by
  have lengths := congrArg List.length (map_length_dataRunsAfter [] records)
  rw [List.length_map, List.length_map] at lengths
  exact lengths

end Firmware

/-- The numbers of a summary are those of the text: a write for each data record,
all of their whole words, the skips that the gaps before them take, and an entry
if one of them is in the config region.  Together they are all bytes of the
script. -/
theorem summary_accounts_for_text (device : Device) (lines : List String)
    (script : Script) (compiled : Compilation.compile device lines = .ok script) :
    let summary := Summary.ofScript script
    let configStart := device.geometry.configStart
    let records := Firmware.dataRecords (Firmware.records lines)
    let runs := Firmware.dataRuns (Firmware.records lines)
    let gaps := DataRun.gaps configStart runs
    summary.writes = records.length ∧
      summary.words = (records.map (fun record => record.payload.length / 2)).sum ∧
      summary.skips = (gaps.map DataRun.Gap.skips).sum ∧
      (∀ gap ∈ gaps, gap.start ≤ gap.limit) ∧
      (summary.config = true ↔ ∃ run ∈ runs, configStart ≤ run.address) ∧
      summary.bytes = script.toBytes.length ∧
      summary.bytes = 4 + 2 * summary.config.toNat + 2 * summary.skips +
        summary.writes + 2 * summary.words := by
  intro summary configStart records runs gaps
  obtain ⟨finished, geometry, stands, accounts⟩ := Compilation.compile_accounts compiled
  have entered := stands.phase.mem_enterConfig_iff
  have skips := accounts.skips
  have forward := accounts.forward
  rw [geometry] at entered skips forward
  have read := Compilation.runsFrom_of_compile compiled
  have lists := Compilation.lists_of_compile compiled
  have numbers : summary = _ := Summary.ofInstructions_eq configStart 0 _ _
  have words : Loader.wordsFrom configStart 0 script.listing.instructions =
      (records.map (fun record => record.payload.length / 2)).sum := by
    rw [Loader.wordsFrom, read]
    exact congrArg List.sum (Firmware.map_length_dataRunsAfter [] _)
  have bytes := lists.size_eq
  rw [Summary.totalLength_eq configStart 0 lists.legal,
    stands.phase.count_enterConfig_eq_toNat, Script.headerSize] at bytes
  rw [numbers]
  dsimp only
  refine ⟨?_, words, skips, forward, ?_, script.length_toBytes.symm, ?_⟩
  · rw [read, Firmware.length_dataRuns]
  · rw [decide_eq_true_eq]
    exact entered
  · omega

/-- Gaps of 255 and 256 words, an odd last byte and a word of the config region. -/
theorem summary_accounts_for_text_with_long_gaps :
    let lines :=
      [":0401FE001122334453", ":03040200556677C5", ":02400E008431FB", ":00000001FF"]
    ∃ script,
      Compilation.compile .pic16f690 lines = .ok script ∧
        Summary.ofScript script =
          { bytes := 25
            words := 4
            writes := 3
            skips := 4
            config := true } := by
  intro lines
  obtain ⟨script, compiled⟩ := Compilation.compile_ok_iff.mpr
    (by decide : Firmware.firstFault Device.pic16f690.geometry lines = none)
  obtain ⟨writes, words, skips, _, config, _, bytes⟩ :=
    summary_accounts_for_text .pic16f690 lines script compiled
  have stored : (Summary.ofScript script).words = 4 := words.trans (by decide)
  have written : (Summary.ofScript script).writes = 3 := writes.trans (by decide)
  have skipped : (Summary.ofScript script).skips = 4 := skips.trans (by decide)
  have entered : (Summary.ofScript script).config = true := config.mpr (by decide)
  rw [stored, written, skipped, entered] at bytes
  refine ⟨script, compiled, ?_⟩
  cases numbers : Summary.ofScript script with
  | mk =>
      rw [numbers] at stored written skipped entered bytes
      subst stored written skipped entered bytes
      rfl

end FlashScript
