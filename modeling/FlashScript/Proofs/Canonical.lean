/-
A script is a canonical form of the data records of a text.  Its instructions
are a function of the runs that the records ask for, and a pass over the
instructions gives the runs back, each from the one write that it became; so
nothing else of a text shows in its script, and nothing of the runs is lost.
-/

import FlashScript.Proofs.Simulation

namespace FlashScript

/-! ### From runs to instructions -/

namespace Word

def toBytes (word : Word) : List UInt8 :=
  [word.first, word.second]

theorem flatMap_toBytes_ofBytes (bytes : List UInt8) :
    (ofBytes bytes).flatMap toBytes = Cursor.wholeWords bytes := by
  induction bytes using ofBytes_induction with
  | empty => rfl
  | odd byte => simp [ofBytes, Cursor.wholeWords]
  | word first second rest inductionHypothesis =>
      have words : (first :: second :: rest).length / 2 = rest.length / 2 + 1 := by
        simp only [List.length_cons]
        omega
      rw [ofBytes, List.flatMap_cons, inductionHypothesis, Cursor.wholeWords,
        Cursor.wholeWords, words]
      rfl

end Word

namespace DataRun

/-- Whether a loader at an address has to enter the config region for a run. -/
def entersFrom (geometry : Geometry) (address : Nat) (run : DataRun) : Bool :=
  geometry.configStart ≤ run.address ∧ address < geometry.configStart

/-- What programs a run when the loader is at an address. -/
def burst (geometry : Geometry) (address : Nat) (run : DataRun) : Burst :=
  { entersConfig := run.entersFrom geometry address
    gap := run.address -
      if run.entersFrom geometry address then geometry.configStart else address
    words := run.words.flatMap Word.toBytes }

/-- The instructions of runs, each from where the one before it ends. -/
def program (geometry : Geometry) (address : Nat) : List DataRun → List Instruction
  | [] => []
  | run :: later =>
      (run.burst geometry address).instructions ++ program geometry run.limit later

def reachedFrom (address : Nat) (runs : List DataRun) : Nat :=
  (runs.getLast?.map limit).getD address

theorem reachedFrom_cons (address : Nat) (run : DataRun) (later : List DataRun) :
    reachedFrom address (run :: later) = reachedFrom run.limit later := by
  rw [reachedFrom, List.getLast?_cons, reachedFrom]
  cases later.getLast? <;> rfl

theorem reachedFrom_dataRuns (earlier : List Record) :
    reachedFrom 0 (Firmware.dataRuns earlier) = Firmware.reached earlier := by
  rw [reachedFrom, Firmware.reached]
  cases (Firmware.dataRuns earlier).getLast? <;> rfl

theorem program_append (geometry : Geometry) (address : Nat)
    (runs later : List DataRun) :
    program geometry address (runs ++ later) =
      program geometry address runs ++
        program geometry (reachedFrom address runs) later := by
  induction runs generalizing address with
  | nil => rfl
  | cons first rest inductionHypothesis =>
      rw [List.cons_append, program, program, inductionHypothesis, List.append_assoc,
        reachedFrom_cons]

end DataRun

/-! ### From instructions to runs -/

theorem Instruction.eq_of_flatMap_encode_eq
    {instructions others : List Instruction}
    (legal : ∀ instruction ∈ instructions, instruction.Legal)
    (otherLegal : ∀ instruction ∈ others, instruction.Legal)
    (same : instructions.flatMap encode = others.flatMap encode) :
    instructions = others := by
  have listings := congrArg Listing.ofStream same
  rw [Listing.ofStream_encode legal, Listing.ofStream_encode otherLegal] at listings
  exact congrArg Listing.instructions listings

theorem Burst.writes_of_short {words : List UInt8} (filled : words ≠ [])
    (short : words.length ≤ 2 * Instruction.maxWords) : writes words = [.write words] := by
  rw [writes_of_ne_nil filled, List.take_of_length_le short,
    List.drop_of_length_le short, writes_nil]

namespace Loader

def written (address : Nat) : Instruction → List DataRun
  | .write words => [{ address := address, words := Word.ofBytes words }]
  | _ => []

/-- The words of each write, and the address that they begin at. -/
def runsFrom (configStart address : Nat) : List Instruction → List DataRun
  | [] => []
  | instruction :: later =>
      written address instruction ++
        runsFrom configStart (next configStart address instruction) later

theorem runsFrom_append (configStart address : Nat) (first second : List Instruction) :
    runsFrom configStart address (first ++ second) =
      runsFrom configStart address first ++
        runsFrom configStart (runFrom configStart address first).address second := by
  induction first generalizing address with
  | nil => rfl
  | cons instruction later inductionHypothesis =>
      rw [List.cons_append, runsFrom, runsFrom, inductionHypothesis, List.append_assoc]
      rfl

theorem runsFrom_skips (configStart address gap : Nat) :
    runsFrom configStart address (Burst.skips gap) = [] := by
  induction gap using Burst.skips_induction generalizing address with
  | none => rfl
  | last gap count value => rfl
  | longest gap later inductionHypothesis => exact inductionHypothesis _

/-- A burst of no more than 255 words becomes one write. -/
theorem runsFrom_instructions (configStart address : Nat) {burst : Burst}
    (filled : burst.words ≠ [])
    (short : burst.words.length ≤ 2 * Instruction.maxWords) :
    runsFrom configStart address burst.instructions =
      [{ address := burst.origin configStart address + burst.gap
         words := Word.ofBytes burst.words }] := by
  have entered :
      runsFrom configStart address
        (if burst.entersConfig then [.enterConfig] else []) = [] := by
    cases burst.entersConfig <;> rfl
  have moved :
      (runFrom configStart address
        ((if burst.entersConfig then [.enterConfig] else []) ++
          Burst.skips burst.gap)).address =
        burst.origin configStart address + burst.gap := by
    rw [runFrom_append, runFrom_skips, Burst.origin]
    cases burst.entersConfig <;> rfl
  rw [Burst.instructions, runsFrom_append, moved, runsFrom_append, entered,
    runsFrom_skips, Burst.writes_of_short filled short]
  rfl

end Loader

/-! ### A pass over the lines -/

namespace Compilation

open Firmware (dataRuns records runOf)

variable {compilation next : Compilation} {instructions : List Instruction}
  {earlier : List Record} {record : Record}

/-- The script is made from the runs so far, and they are read off it. -/
structure Renders (compilation : Compilation) (earlier : List Record)
    (instructions : List Instruction) : Prop where
  script : compilation.script =
    (Script.empty compilation.geometry.deviceId).appendAll instructions
  program : instructions = DataRun.program compilation.geometry 0 (dataRuns earlier)
  runs : Loader.runsFrom compilation.geometry.configStart 0 instructions =
    dataRuns earlier

theorem renders_start (geometry : Geometry) : (startOn geometry).Renders [] [] where
  script := rfl
  program := rfl
  runs := rfl

/-- The burst of a record is known from its run alone. -/
theorem burst_runOf (follows : compilation.cursor.Follows earlier) (record : Record) :
    (runOf earlier record).burst compilation.geometry (Firmware.reached earlier) =
      compilation.burstOf record := by
  have target : (runOf earlier record).address = compilation.cursor.target record :=
    (follows.target record).symm
  have enters : (runOf earlier record).entersFrom compilation.geometry
      (Firmware.reached earlier) =
        compilation.cursor.entersConfig compilation.geometry
          (compilation.cursor.target record) := by
    rw [DataRun.entersFrom, target, ← follows.address, Cursor.entersConfig]
  rw [DataRun.burst, enters, target, ← follows.address, burstOf, Cursor.burstOf,
    Burst.mk.injEq]
  refine ⟨rfl, ?_, Word.flatMap_toBytes_ofBytes record.payload⟩
  rw [Cursor.arrive]
  split <;> rfl

/-- The words of a record fit into one write. -/
theorem runsFrom_burstOf (admits : compilation.Admits record)
    (follows : compilation.cursor.Follows earlier) :
    Loader.runsFrom compilation.geometry.configStart compilation.cursor.address
      (compilation.burstOf record).instructions = [runOf earlier record] := by
  have lands := Cursor.origin_add_gap admits
  have words := Cursor.ofBytes_wholeWords record.payload
  have length : (compilation.burstOf record).words.length =
      2 * (record.payload.length / 2) := Cursor.length_words_burstOf
  have fits := record.payloadFits
  have filled := admits.filled
  have nonempty : (compilation.burstOf record).words ≠ [] := by
    apply List.ne_nil_of_length_pos
    omega
  have short : (compilation.burstOf record).words.length ≤
      2 * Instruction.maxWords := by
    rw [length, Instruction.maxWords]
    omega
  rw [Loader.runsFrom_instructions _ _ nonempty short, burstOf, lands, follows.target]
  exact congrArg (fun words => [DataRun.mk _ words]) words

theorem Renders.program_record (renders : compilation.Renders earlier instructions)
    (simulates : compilation.Simulates earlier instructions)
    (admits : compilation.Admits record) :
    (compilation.program record).Renders (earlier ++ [record])
      (instructions ++ (compilation.burstOf record).instructions) where
  script := by
    have script := renders.script
    rw [Script.appendAll_append]
    exact congrArg (Script.appendAll · (compilation.burstOf record).instructions) script
  program := by
    have run := burst_runOf simulates.follows record
    rw [Firmware.dataRuns_append_data admits.data, DataRun.program_append,
      DataRun.reachedFrom_dataRuns, DataRun.program, DataRun.program, List.append_nil]
    change _ = DataRun.program compilation.geometry 0 (dataRuns earlier) ++
      ((runOf earlier record).burst compilation.geometry
        (Firmware.reached earlier)).instructions
    rw [run, ← renders.program]
  runs := by
    have reached := congrArg Loader.Trace.address simulates.trace
    change Loader.runsFrom compilation.geometry.configStart 0 _ = _
    rw [Loader.runsFrom_append, renders.runs, ← Loader.run, reached,
      runsFrom_burstOf admits simulates.follows, Firmware.dataRuns_append_data admits.data]

theorem Renders.moveTo {cursor : Cursor} (renders : compilation.Renders earlier instructions)
    (other : record.recordType ≠ 0) :
    (compilation.moveTo cursor).Renders (earlier ++ [record]) instructions where
  script := renders.script
  program := by
    rw [Firmware.dataRuns_append_other other]
    exact renders.program
  runs := by
    rw [Firmware.dataRuns_append_other other]
    exact renders.runs

theorem Renders.fed (renders : compilation.Renders earlier instructions)
    (simulates : compilation.Simulates earlier instructions)
    (came : Fed compilation record next (.ok ())) :
    next.Renders (earlier ++ [record]) (instructions ++ compilation.emitted record) := by
  rcases came.accepted with ⟨admits, rfl⟩ | ⟨other, cursor, rfl, still⟩
  · rw [emitted_data admits.data]
    exact renders.program_record simulates admits
  · rw [emitted_other other, List.append_nil]
    exact renders.moveTo other

/-- A text's script is that of its runs, and gives the runs back. -/
theorem compile_renders {device : Device} {lines : List String} {script : Script}
    (compiled : compile device lines = .ok script) :
    ∃ instructions,
      script = (Script.empty device.geometry.deviceId).appendAll instructions ∧
        (∀ instruction ∈ instructions, instruction.Legal) ∧
        instructions = DataRun.program device.geometry 0 (dataRuns (records lines)) ∧
        Loader.runsFrom device.geometry.configStart 0 instructions =
          dataRuns (records lines) := by
  obtain ⟨finished, accepted, rfl⟩ := compile_ok compiled
  have geometry : finished.geometry = device.geometry := geometry_feedAll accepted
  have whole := feedAll_accepted
    (fun reached earlier => ∃ instructions,
      reached.Simulates earlier instructions ∧ reached.Renders earlier instructions)
    ?_ ?_ [] accepted ⟨[], simulates_start device.geometry, renders_start device.geometry⟩
  · obtain ⟨instructions, simulates, renders⟩ := whole
    have script := renders.script
    have program := renders.program
    have runs := renders.runs
    rw [geometry] at script program runs
    exact ⟨instructions, script, simulates.lists.legal, program, runs⟩
  · intro reached earlier ⟨instructions, simulates, renders⟩
    exact ⟨instructions, simulates_count simulates, renders.script, renders.program,
      renders.runs⟩
  · intro reached earlier record next ⟨instructions, simulates, renders⟩ came
    exact ⟨_, simulates.fed came, renders.fed simulates came⟩

theorem size_of_compile {device : Device} {lines : List String} {script : Script}
    (compiled : compile device lines = .ok script) :
    script.size = Script.headerSize +
      Instruction.totalLength
        (DataRun.program device.geometry 0 (dataRuns (records lines))) := by
  obtain ⟨instructions, rfl, _, made, _⟩ := compile_renders compiled
  rw [Script.size_appendAll, made]
  rfl

end Compilation

/-- Texts compile to the same bytes exactly when their data records ask for the
same words at the same addresses, record by record. -/
theorem script_bytes_eq_iff_data_runs_eq (device : Device) (first second : List String)
    (script other : Script) (compiled : Compilation.compile device first = .ok script)
    (alsoCompiled : Compilation.compile device second = .ok other) :
    script.toBytes = other.toBytes ↔
      Firmware.dataRuns (Firmware.records first) =
        Firmware.dataRuns (Firmware.records second) := by
  obtain ⟨instructions, rfl, legal, made, read⟩ := Compilation.compile_renders compiled
  obtain ⟨others, rfl, otherLegal, otherMade, otherRead⟩ :=
    Compilation.compile_renders alsoCompiled
  constructor
  · intro same
    rw [Script.toBytes_appendAll, Script.toBytes_appendAll,
      List.append_cancel_left_eq] at same
    rw [← read, ← otherRead, Instruction.eq_of_flatMap_encode_eq legal otherLegal same]
  · intro same
    rw [made, otherMade, same]

/-- Blank lines, small letters, an odd last byte, an extended address said twice
and the end of the file leave no trace; a word more does. -/
theorem script_bytes_eq_iff_data_runs_eq_of_noise :
    ∃ script other longer,
      Compilation.compile .pic16f1847
          [":02001000AABB89", ":020000040001F9", ":02000E00FF3FB2"] = .ok script ∧
        Compilation.compile .pic16f1847
          ["", ":020000040000FA", ":03001000aabb0088", ":020000040001F9", "",
            ":020000040001f9", ":02000E00ff3fb2", ":00000001FF"] = .ok other ∧
        Compilation.compile .pic16f1847
          [":04001000AABBCCDDDE", ":020000040001F9", ":02000E00FF3FB2"] = .ok longer ∧
        script.toBytes = other.toBytes ∧ script.toBytes ≠ longer.toBytes := by
  obtain ⟨script, compiled⟩ := Compilation.compile_ok_iff.mpr
    (by decide : Firmware.firstFault Device.pic16f1847.geometry
      [":02001000AABB89", ":020000040001F9", ":02000E00FF3FB2"] = none)
  obtain ⟨other, alsoCompiled⟩ := Compilation.compile_ok_iff.mpr
    (by decide : Firmware.firstFault Device.pic16f1847.geometry
      ["", ":020000040000FA", ":03001000aabb0088", ":020000040001F9", "",
        ":020000040001f9", ":02000E00ff3fb2", ":00000001FF"] = none)
  obtain ⟨longer, longerCompiled⟩ := Compilation.compile_ok_iff.mpr
    (by decide : Firmware.firstFault Device.pic16f1847.geometry
      [":04001000AABBCCDDDE", ":020000040001F9", ":02000E00FF3FB2"] = none)
  have same := script_bytes_eq_iff_data_runs_eq .pic16f1847 _ _ script other compiled
    alsoCompiled
  have differs := script_bytes_eq_iff_data_runs_eq .pic16f1847 _ _ script longer compiled
    longerCompiled
  exact ⟨script, other, longer, compiled, alsoCompiled, longerCompiled,
    same.mpr (by decide), mt differs.mp (by decide)⟩

end FlashScript
