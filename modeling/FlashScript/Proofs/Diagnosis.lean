/-
Compiling finds what the stateless reading of a text finds.  As long as no line
is at fault the cursor stands where the data records before it end, in the half
that the latest extended address selects.  The jump to the config region is not
seen by this: it happens only on the way to a record, and a record that is
refused after it ends the pass.
-/

import FlashScript.Proofs.Capacity

namespace FlashScript

/-! ### The cursor and the records before it -/

namespace Cursor

variable {geometry : Geometry} {cursor next : Cursor} {record : Record}
  {earlier : List Record}

/-- The cursor stands where the reading of earlier records has come to. -/
structure Follows (cursor : Cursor) (earlier : List Record) : Prop where
  address : cursor.address = Firmware.reached earlier
  base : cursor.base = halfSize * Firmware.extension earlier

theorem follows_start : start.Follows [] where
  address := rfl
  base := rfl

theorem Follows.target (follows : cursor.Follows earlier) (record : Record) :
    cursor.target record = Firmware.effectiveAddress earlier record := by
  rw [Cursor.target, follows.base, Firmware.effectiveAddress]

theorem Follows.advance (follows : cursor.Follows earlier)
    (data : record.recordType = 0) :
    (cursor.advance record).Follows (earlier ++ [record]) where
  address := by
    rw [Firmware.reached_append_data data, Firmware.limit_runOf, ← follows.target]
    rfl
  base := by
    rw [Firmware.extension_append_other (by rw [data]; decide)]
    exact follows.base

theorem Follows.pass (follows : cursor.Follows earlier)
    (endOfFile : record.recordType = 1) : cursor.Follows (earlier ++ [record]) where
  address := by
    rw [Firmware.reached_append_other (by rw [endOfFile]; decide)]
    exact follows.address
  base := by
    rw [Firmware.extension_append_other (by rw [endOfFile]; decide)]
    exact follows.base

theorem Follows.select (follows : cursor.Follows earlier)
    (extended : record.recordType = 4) (still : next.address = cursor.address)
    (half : next.base = halfSize * (record.payload.getLastD 0).toNat) :
    next.Follows (earlier ++ [record]) where
  address := by
    rw [Firmware.reached_append_other (by rw [extended]; decide), still]
    exact follows.address
  base := by
    rw [Firmware.extension_append_extended extended]
    exact half

end Cursor

/-! ### Faults of records -/

/-- What comes of a step that has a fault or has none. -/
def Firmware.verdict {ε : Type} : Option ε → Except ε Unit
  | none => .ok ()
  | some fault => .error fault

theorem Firmware.mapError_verdict {ε ε' : Type} (label : ε → ε') (fault : Option ε) :
    (verdict fault).mapError label = verdict (fault.map label) := by
  cases fault <;> rfl

theorem Firmware.ok_iff_of_verdict {ε α : Type} {outcome : Except ε α}
    {fault : Option ε} (same : outcome.map (fun _ => ()) = verdict fault) :
    (∃ value, outcome = .ok value) ↔ fault = none := by
  cases outcome with
  | ok value =>
      cases fault with
      | none => exact iff_of_true ⟨value, rfl⟩ rfl
      | some error => cases same
  | error found =>
      cases fault with
      | none => cases same
      | some error => exact iff_of_false nofun nofun

theorem Firmware.error_iff_of_verdict {ε α : Type} {outcome : Except ε α}
    {fault : Option ε} (same : outcome.map (fun _ => ()) = verdict fault)
    (error : ε) : outcome = .error error ↔ fault = some error := by
  cases outcome with
  | ok value =>
      cases fault with
      | none => exact iff_of_false nofun nofun
      | some first => cases same
  | error found =>
      cases fault with
      | none => cases same
      | some first =>
          cases same
          rw [Except.error.injEq, Option.some_inj]

namespace Cursor

open Firmware (verdict dataFault recordFault)

variable {geometry : Geometry} {cursor next : Cursor} {record : Record}
  {earlier : List Record}

theorem Follows.placeData_fault (follows : cursor.Follows earlier)
    (geometry : Geometry) (record : Record) :
    (cursor.placeData geometry record).2.map (fun _ => ()) =
      verdict (dataFault geometry earlier record) := by
  simp only [placeData_eq, dataFault, follows.target, follows.address]
  split
  · rfl
  · split
    · rfl
    · split
      · rfl
      · split
        · rfl
        · split
          · rfl
          · rfl

theorem selectHalf_fault (cursor : Cursor) (record : Record) :
    (cursor.selectHalf record).map (fun _ => ()) =
      verdict
        (if record.address = 0 ∧ (record.payload = [0, 0] ∨ record.payload = [0, 1])
          then none else some .unsupportedExtendedAddress) := by
  unfold selectHalf
  by_cases lowest : record.address = 0
  · rw [if_neg (not_not_intro lowest)]
    split
    · rename_i payload
      rw [if_pos ⟨lowest, Or.inl payload⟩]
      rfl
    · rename_i payload
      rw [if_pos ⟨lowest, Or.inr payload⟩]
      rfl
    · rename_i notLower notUpper
      rw [if_neg (fun both => both.2.elim notLower notUpper)]
      rfl
  · rw [if_pos lowest, if_neg (fun both => lowest both.1)]
    rfl

/-- A record is refused for its fault, and only for that. -/
theorem Follows.place_fault (follows : cursor.Follows earlier)
    (geometry : Geometry) (record : Record) :
    (cursor.place geometry record).2.map (fun _ => ()) =
      verdict (recordFault geometry earlier record) := by
  by_cases data : record.recordType = 0
  · rw [place_data data, recordFault, if_pos data, ← follows.placeData_fault]
    cases (cursor.placeData geometry record).2 <;> rfl
  · by_cases endOfFile : record.recordType = 1
    · rw [place_endOfFile endOfFile, recordFault, if_neg data, if_pos endOfFile]
      rfl
    · by_cases extended : record.recordType = 4
      · rw [recordFault, if_neg data, if_neg endOfFile, if_pos extended,
          ← selectHalf_fault cursor, place_extended extended]
        cases cursor.selectHalf record <;> rfl
      · rw [place_unsupported data endOfFile extended, recordFault, if_neg data,
          if_neg endOfFile, if_neg extended]
        rfl

end Cursor

/-! ### Faults of lines -/

namespace Firmware

variable {geometry : Geometry} {earlier lines : List String}

def LegalAfter (geometry : Geometry) (earlier lines : List String) : Prop :=
  ∀ before line after, lines = before ++ line :: after →
    lineFault geometry (records (earlier ++ before)) line = none

/-- No line has a fault after those before it. -/
def Legal (geometry : Geometry) (lines : List String) : Prop :=
  ∀ before line after, lines = before ++ line :: after →
    lineFault geometry (records before) line = none

theorem legalAfter_nil (geometry : Geometry) (earlier : List String) :
    LegalAfter geometry earlier [] := by
  intro before line after split
  cases before <;> cases split

theorem legalAfter_cons {line : String} {later : List String} :
    LegalAfter geometry earlier (line :: later) ↔
      lineFault geometry (records earlier) line = none ∧
        LegalAfter geometry (earlier ++ [line]) later := by
  constructor
  · intro legal
    constructor
    · have first := legal [] line later rfl
      rw [List.append_nil] at first
      exact first
    · intro before faulty after split
      rw [List.append_assoc]
      apply legal (line :: before) faulty after
      rw [split, List.cons_append]
  · intro ⟨first, legal⟩ before faulty after split
    cases before with
    | nil =>
        cases split
        rw [List.append_nil]
        exact first
    | cons same rest =>
        cases split
        rw [List.append_cons]
        exact legal rest faulty after rfl

theorem firstFaultAfter_eq_none_iff :
    firstFaultAfter geometry earlier lines = none ↔
      LegalAfter geometry earlier lines := by
  induction lines generalizing earlier with
  | nil => exact iff_of_true rfl (legalAfter_nil geometry earlier)
  | cons line later inductionHypothesis =>
      rw [firstFaultAfter, legalAfter_cons, ← inductionHypothesis]
      cases lineFault geometry (records earlier) line <;> simp

/-- The diagnostic is that of the first line with a fault. -/
def FirstIllegal (geometry : Geometry) (earlier lines : List String)
    (diagnostic : Diagnostic) : Prop :=
  ∃ before line after, lines = before ++ line :: after ∧
    LegalAfter geometry earlier before ∧
    lineFault geometry (records (earlier ++ before)) line = some diagnostic.error ∧
    diagnostic.line = (earlier ++ before).length + 1 ∧
    diagnostic.content = line

variable {line : String} {later : List String} {diagnostic : Diagnostic}

theorem firstIllegal_cons_of_fault {error : LineError}
    (fault : lineFault geometry (records earlier) line = some error) :
    FirstIllegal geometry earlier (line :: later) diagnostic ↔
      { line := earlier.length + 1, content := line, error := error } =
        diagnostic := by
  constructor
  · intro ⟨before, faulty, after, split, legal, found, number, content⟩
    cases before with
    | nil =>
        cases split
        rw [List.append_nil] at found number
        cases fault.symm.trans found
        rw [← number, ← content]
    | cons same rest =>
        cases split
        cases fault.symm.trans (legalAfter_cons.mp legal).1
  · intro same
    cases same
    refine ⟨[], line, later, rfl, legalAfter_nil geometry earlier, ?_, ?_, rfl⟩
    · rw [List.append_nil]
      exact fault
    · rw [List.append_nil]

theorem firstIllegal_cons_of_legal
    (fault : lineFault geometry (records earlier) line = none) :
    FirstIllegal geometry earlier (line :: later) diagnostic ↔
      FirstIllegal geometry (earlier ++ [line]) later diagnostic := by
  constructor
  · intro ⟨before, faulty, after, split, legal, found, number, content⟩
    cases before with
    | nil =>
        cases split
        rw [List.append_nil] at found
        cases fault.symm.trans found
    | cons same rest =>
        cases split
        rw [List.append_cons] at found number
        exact ⟨rest, faulty, after, rfl, (legalAfter_cons.mp legal).2, found, number,
          content⟩
  · intro ⟨before, faulty, after, split, legal, found, number, content⟩
    rw [← List.append_cons] at found number
    exact ⟨line :: before, faulty, after, congrArg (line :: ·) split,
      legalAfter_cons.mpr ⟨fault, legal⟩, found, number, content⟩

theorem firstFaultAfter_eq_some_iff :
    firstFaultAfter geometry earlier lines = some diagnostic ↔
      FirstIllegal geometry earlier lines diagnostic := by
  induction lines generalizing earlier with
  | nil =>
      refine iff_of_false nofun ?_
      intro ⟨before, line, after, split, _⟩
      cases before <;> cases split
  | cons line later inductionHypothesis =>
      rw [firstFaultAfter]
      cases fault : lineFault geometry (records earlier) line with
      | some error =>
          rw [firstIllegal_cons_of_fault fault]
          exact Option.some_inj
      | none =>
          rw [firstIllegal_cons_of_legal fault]
          exact inductionHypothesis

end Firmware

/-! ### A pass over the lines -/

namespace Compilation

open Firmware (verdict recordFault lineFault firstFault firstFaultAfter records)

variable {compilation : Compilation} {record : Record} {instructions : List Instruction}
  {earlier lines : List String}

theorem follows_fed (reached : Compilation) (earlier : List Record) (record : Record)
    (next : Compilation) (follows : reached.cursor.Follows earlier)
    (came : Fed reached record next (.ok ())) :
    next.cursor.Follows (earlier ++ [record]) := by
  cases came with
  | programmed admits => exact follows.advance admits.data
  | ended endOfFile => exact follows.pass endOfFile
  | selected extended still half => exact follows.select extended still half

/-- There is room for every record, so that its fault is all that can stop it. -/
theorem Bounded.feedRecord_fault {earlier : List Record}
    (bounded : compilation.Bounded instructions)
    (follows : compilation.cursor.Follows earlier) (record : Record) :
    (compilation.feedRecord record).2 =
      verdict ((recordFault compilation.geometry earlier record).map .placement) := by
  have came :=
    Cursor.place_outcome compilation.geometry compilation.cursor record
  have fault := follows.place_fault compilation.geometry record
  cases placed : compilation.cursor.place compilation.geometry record with
  | mk cursor outcome =>
      rw [placed] at came fault
      have stopped (error : PlacementError) (refused : outcome = .error error) :
          (compilation.feedRecord record).2 = .error (.placement error) := by
        rw [refused] at placed
        simp only [Compilation.feedRecord, placed]
      have passed (unmoved : outcome = .ok none) :
          (compilation.feedRecord record).2 = .ok () := by
        rw [unmoved] at placed
        simp only [Compilation.feedRecord, placed]
      have outcomes :
          (compilation.feedRecord record).2 =
            (outcome.map (fun _ => ())).mapError .placement := by
        cases came with
        | admitted admits =>
            rw [bounded.feedRecord admits]
            rfl
        | ended endOfFile => exact passed rfl
        | selected extended still half => exact passed rfl
        | refused => exact stopped _ rfl
        | empty => exact stopped _ rfl
      rw [outcomes, fault, Firmware.mapError_verdict]

/-- What a pass has come to after lines without a fault. -/
structure Reads (compilation : Compilation) (earlier : List String) : Prop where
  bounded : ∃ instructions, compilation.Bounded instructions
  follows : compilation.cursor.Follows (records earlier)
  counted : compilation.lines = earlier.length

theorem reads_start (device : Device) : (start device).Reads [] where
  bounded := ⟨[], bounded_start device⟩
  follows := Cursor.follows_start
  counted := rfl

theorem Reads.feedLine_fault (reads : compilation.Reads earlier) (line : String) :
    (compilation.feedLine line).2 =
      verdict ((lineFault compilation.geometry (records earlier) line).map
        (fun error =>
          { line := earlier.length + 1
            content := line
            error := error })) := by
  obtain ⟨instructions, bounded⟩ := reads.bounded
  cases filled : line.isEmpty with
  | true =>
      rw [feedLine_of_empty filled, lineFault, if_pos filled]
      rfl
  | false =>
      rw [lineFault, filled, if_neg Bool.false_ne_true]
      cases parsed : Record.parse line with
      | error error =>
          rw [feedLine_of_error filled parsed, reads.counted]
          rfl
      | ok record =>
          have fault := bounded.count.feedRecord_fault reads.follows record
          rw [feedLine_of_record parsed, fault, Firmware.mapError_verdict,
            reads.counted]
          rfl

theorem lines_feedLine (compilation : Compilation) (line : String) :
    (compilation.feedLine line).1.lines = compilation.lines + 1 := by
  rcases feedLine_forms compilation line with passed | ⟨error, malformed⟩ |
    ⟨record, parsed, recorded⟩
  · rw [passed]
    rfl
  · rw [malformed]
    rfl
  · rw [recorded]
    exact (feedRecord_fed compilation.count record).lines

theorem Reads.feedLine (reads : compilation.Reads earlier) {line : String}
    (accepted : (compilation.feedLine line).2 = .ok ()) :
    (compilation.feedLine line).1.Reads (earlier ++ [line]) where
  bounded := bounded_feedLines reads.bounded [line]
  follows :=
    feedLine_accepted (fun reached earlier => reached.cursor.Follows earlier)
      (fun _ _ follows => follows) follows_fed accepted reads.follows
  counted := by
    rw [lines_feedLine, reads.counted, List.length_append, List.length_singleton]

theorem geometry_feedLine (compilation : Compilation) (line : String) :
    (compilation.feedLine line).1.geometry = compilation.geometry :=
  geometry_feedThrough compilation [line]

/-- A pass stops at the first line with a fault, and says what the fault is. -/
theorem Reads.feedAll_fault (reads : compilation.Reads earlier)
    (lines : List String) :
    (compilation.feedAll lines).map (fun _ => ()) =
      verdict (firstFaultAfter compilation.geometry earlier lines) := by
  induction lines generalizing compilation earlier with
  | nil => rfl
  | cons line later inductionHypothesis =>
      have fault := reads.feedLine_fault line
      have step (accepted : (compilation.feedLine line).2 = .ok ()) :=
        inductionHypothesis (reads.feedLine accepted)
      have same := geometry_feedLine compilation line
      rw [feedAll, firstFaultAfter]
      cases came : compilation.feedLine line with
      | mk reached outcome =>
          rw [came] at fault step same
          cases found : lineFault compilation.geometry (records earlier) line with
          | some error =>
              rw [found] at fault
              cases fault
              rfl
          | none =>
              rw [found] at fault
              cases fault
              have rest := step rfl
              rw [same] at rest
              exact rest

theorem compile_fault (device : Device) (lines : List String) :
    (compile device lines).map (fun _ => ()) =
      verdict (firstFault device.geometry lines) := by
  have fault := (reads_start device).feedAll_fault lines
  rw [compile]
  cases came : (start device).feedAll lines with
  | ok finished =>
      rw [came] at fault
      exact fault
  | error diagnostic =>
      rw [came] at fault
      exact fault

theorem compile_ok_iff {device : Device} :
    (∃ script, compile device lines = .ok script) ↔
      firstFault device.geometry lines = none :=
  Firmware.ok_iff_of_verdict (compile_fault device lines)

theorem compile_error_iff {device : Device} {diagnostic : Diagnostic} :
    compile device lines = .error diagnostic ↔
      firstFault device.geometry lines = some diagnostic :=
  Firmware.error_iff_of_verdict (compile_fault device lines) diagnostic

theorem legal_of_compile {device : Device} {script : Script}
    (compiled : compile device lines = .ok script) :
    Firmware.LegalAfter device.geometry [] lines :=
  Firmware.firstFaultAfter_eq_none_iff.mp (compile_ok_iff.mp ⟨script, compiled⟩)

theorem firstIllegal_of_compile {device : Device} {diagnostic : Diagnostic}
    (failed : compile device lines = .error diagnostic) :
    Firmware.FirstIllegal device.geometry [] lines diagnostic :=
  Firmware.firstFaultAfter_eq_some_iff.mp (compile_error_iff.mp failed)

end Compilation

/-- A text compiles exactly when no line of it has a fault, and otherwise the
diagnostic is that of the first line that has one. -/
theorem compile_diagnoses_first_illegal_line (device : Device) (lines : List String) :
    ((∃ script, Compilation.compile device lines = .ok script) ↔
        Firmware.Legal device.geometry lines) ∧
      ∀ diagnostic, Compilation.compile device lines = .error diagnostic ↔
        ∃ before line after, lines = before ++ line :: after ∧
          Firmware.Legal device.geometry before ∧
          Firmware.lineFault device.geometry (Firmware.records before) line =
            some diagnostic.error ∧
          diagnostic.line = before.length + 1 ∧
          diagnostic.content = line := by
  constructor
  · exact Compilation.compile_ok_iff.trans Firmware.firstFaultAfter_eq_none_iff
  · intro diagnostic
    exact Compilation.compile_error_iff.trans Firmware.firstFaultAfter_eq_some_iff

end FlashScript
