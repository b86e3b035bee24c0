/-
Feeding records and lines, one at a time and many in a row.  Every way that a
record can go is one case of `Fed`; lines add nothing to it but the count, so
that a property which records keep is kept by all lines, failed ones included.
-/

import FlashScript.Compilation
import FlashScript.Proofs.Placement

namespace FlashScript.Compilation

variable {compilation : Compilation} {record : Record}

def burstOf (compilation : Compilation) (record : Record) : Burst :=
  compilation.cursor.burstOf compilation.geometry record

def Admits (compilation : Compilation) (record : Record) : Prop :=
  compilation.cursor.Admits compilation.geometry record

/-- After a data record whose instructions all found room. -/
def program (compilation : Compilation) (record : Record) : Compilation :=
  { compilation with
    cursor := compilation.cursor.advance record
    script := compilation.script.appendAll (compilation.burstOf record).instructions }

def moveTo (compilation : Compilation) (cursor : Cursor) : Compilation :=
  { compilation with cursor := cursor }

/-- The compilation after a record and what came of it. -/
inductive Fed (compilation : Compilation) (record : Record) :
    Compilation → Except LineError Unit → Prop where
  | programmed (admits : compilation.Admits record) :
      Fed compilation record (compilation.program record) (.ok ())
  | overflowed {script : Script} (admits : compilation.Admits record)
      (incomplete :
        (compilation.script.emit (compilation.burstOf record)).complete = false) :
      Fed compilation record
        { compilation with
          cursor := compilation.cursor.advance record
          script := script }
        (.error .scriptOverflow)
  | ended (endOfFile : record.recordType = 1) :
      Fed compilation record compilation (.ok ())
  | selected {cursor : Cursor} (extended : record.recordType = 4)
      (still : cursor.address = compilation.cursor.address)
      (half : cursor.base =
        Cursor.halfSize * (record.payload.getLastD 0).toNat) :
      Fed compilation record (compilation.moveTo cursor) (.ok ())
  | refused {error : PlacementError} :
      Fed compilation record compilation (.error (.placement error))
  | empty :
      Fed compilation record
        (compilation.moveTo
          (compilation.cursor.arrive compilation.geometry
            (compilation.cursor.target record)))
        (.error (.placement .emptyData))

theorem fed_of_admits (admits : compilation.Admits record) :
    Fed compilation record
      ((compilation.moveTo (compilation.cursor.advance record)).emit
        (compilation.burstOf record)).1
      ((compilation.moveTo (compilation.cursor.advance record)).emit
        (compilation.burstOf record)).2 := by
  cases came : (compilation.script.emit (compilation.burstOf record)).complete with
  | true =>
      have appended :
          (compilation.script.emit (compilation.burstOf record)).script =
            compilation.script.appendAll (compilation.burstOf record).instructions := by
        rw [Script.emit_eq_pushAll] at came ⊢
        exact Script.pushAll_of_complete came
      simp only [emit, moveTo, came, appended, if_true]
      exact .programmed admits
  | false =>
      simp only [emit, moveTo, came, if_neg Bool.false_ne_true]
      exact .overflowed admits came

theorem feedRecord_of_admits (admits : compilation.Admits record) :
    compilation.feedRecord record =
      (compilation.moveTo (compilation.cursor.advance record)).emit
        (compilation.burstOf record) := by
  simp only [feedRecord, Cursor.place_of_admits admits]
  rfl

theorem feedRecord_fed (compilation : Compilation) (record : Record) :
    Fed compilation record (compilation.feedRecord record).1
      (compilation.feedRecord record).2 := by
  have came :=
    Cursor.place_outcome compilation.geometry compilation.cursor record
  unfold feedRecord
  cases placed : compilation.cursor.place compilation.geometry record with
  | mk cursor outcome =>
      rw [placed] at came
      cases came with
      | admitted admits => exact fed_of_admits admits
      | ended endOfFile => exact .ended endOfFile
      | selected extended still half => exact .selected extended still half
      | refused => exact .refused
      | empty => exact .empty

/-- An outcome that adds no instruction keeps what holds of the instructions. -/
theorem exists_append {holds : List Instruction → Prop}
    {instructions : List Instruction} (same : holds instructions) :
    ∃ later, holds (instructions ++ later) := by
  refine ⟨[], ?_⟩
  rw [List.append_nil]
  exact same

theorem Fed.geometry {next : Compilation} {outcome : Except LineError Unit}
    (came : Fed compilation record next outcome) :
    next.geometry = compilation.geometry := by
  cases came <;> rfl

theorem Fed.lines {next : Compilation} {outcome : Except LineError Unit}
    (came : Fed compilation record next outcome) :
    next.lines = compilation.lines := by
  cases came <;> rfl

/-- An accepted record is programmed, or it is no data record and leads nowhere. -/
theorem Fed.accepted {next : Compilation} (came : Fed compilation record next (.ok ())) :
    compilation.Admits record ∧ next = compilation.program record ∨
      record.recordType ≠ 0 ∧ ∃ cursor,
        next = compilation.moveTo cursor ∧
          cursor.address = compilation.cursor.address := by
  cases came with
  | programmed admits => exact .inl ⟨admits, rfl⟩
  | ended endOfFile =>
      refine .inr ⟨?_, compilation.cursor, rfl, rfl⟩
      rw [endOfFile]
      decide
  | selected extended still half =>
      refine .inr ⟨?_, _, rfl, still⟩
      rw [extended]
      decide

/-! ### Lines -/

def count (compilation : Compilation) : Compilation :=
  { compilation with lines := compilation.lines + 1 }

theorem feedLine_of_empty {line : String} (empty : line.isEmpty = true) :
    compilation.feedLine line = (compilation.count, .ok ()) := by
  rw [feedLine, if_pos empty]
  rfl

theorem feedLine_of_error {line : String} {error : RecordError}
    (filled : line.isEmpty = false) (parsed : Record.parse line = .error error) :
    compilation.feedLine line =
      (compilation.count,
        .error
          { line := compilation.lines + 1
            content := line
            error := .record error }) := by
  simp only [feedLine, filled, if_neg Bool.false_ne_true, feedText, parsed]
  rfl

theorem parse_of_isEmpty {line : String} (empty : line.isEmpty = true) :
    Record.parse line = .error .malformed := by
  have nothing : line = "" := by simpa using empty
  rw [nothing]
  rfl

theorem isEmpty_of_parse {line : String} (parsed : Record.parse line = .ok record) :
    line.isEmpty = false := by
  cases empty : line.isEmpty with
  | false => rfl
  | true =>
      rw [parse_of_isEmpty empty] at parsed
      cases parsed

theorem feedLine_of_record {line : String} (parsed : Record.parse line = .ok record) :
    compilation.feedLine line =
      ((compilation.count.feedRecord record).1,
        (compilation.count.feedRecord record).2.mapError (fun error =>
          { line := compilation.lines + 1
            content := line
            error := error })) := by
  simp only [feedLine, isEmpty_of_parse parsed, if_neg Bool.false_ne_true, feedText,
    parsed]
  rfl

theorem feedLine_forms (compilation : Compilation) (line : String) :
    compilation.feedLine line = (compilation.count, .ok ()) ∨
      (∃ error, compilation.feedLine line =
        (compilation.count,
          .error
            { line := compilation.lines + 1
              content := line
              error := .record error })) ∨
      ∃ record, Record.parse line = .ok record ∧
        compilation.feedLine line =
          ((compilation.count.feedRecord record).1,
            (compilation.count.feedRecord record).2.mapError (fun error =>
              { line := compilation.lines + 1
                content := line
                error := error })) := by
  cases filled : line.isEmpty with
  | true => exact Or.inl (feedLine_of_empty filled)
  | false =>
      cases parsed : Record.parse line with
      | error error => exact Or.inr (Or.inl ⟨error, feedLine_of_error filled parsed⟩)
      | ok record =>
          exact Or.inr (Or.inr ⟨record, rfl, feedLine_of_record parsed⟩)

/-! ### Many lines -/

/-- Every line is fed, also after lines that failed. -/
def feedThrough (compilation : Compilation) (lines : List String) : Compilation :=
  lines.foldl (fun reached line => (reached.feedLine line).1) compilation

theorem feedThrough_cons (compilation : Compilation) (line : String)
    (later : List String) :
    compilation.feedThrough (line :: later) =
      (compilation.feedLine line).1.feedThrough later := rfl

theorem feedLine_keeps (holds : Compilation → Prop)
    (counted : ∀ reached, holds reached → holds reached.count)
    (fed : ∀ reached record, holds reached → holds (reached.feedRecord record).1)
    (line : String) (start : holds compilation) :
    holds (compilation.feedLine line).1 := by
  rcases feedLine_forms compilation line with passed | ⟨error, failed⟩ |
    ⟨record, parsed, recorded⟩
  · rw [passed]
    exact counted compilation start
  · rw [failed]
    exact counted compilation start
  · rw [recorded]
    exact fed compilation.count record (counted compilation start)

theorem feedThrough_keeps (holds : Compilation → Prop)
    (counted : ∀ reached, holds reached → holds reached.count)
    (fed : ∀ reached record, holds reached → holds (reached.feedRecord record).1)
    (lines : List String) (start : holds compilation) :
    holds (compilation.feedThrough lines) := by
  induction lines generalizing compilation with
  | nil => exact start
  | cons line later inductionHypothesis =>
      rw [feedThrough_cons]
      exact inductionHypothesis (feedLine_keeps holds counted fed line start)

theorem geometry_feedThrough (compilation : Compilation) (lines : List String) :
    (compilation.feedThrough lines).geometry = compilation.geometry := by
  refine feedThrough_keeps
    (fun reached => reached.geometry = compilation.geometry) ?_ ?_ lines rfl
  · intro reached same
    exact same
  · intro reached record same
    exact (feedRecord_fed reached record).geometry.trans same

/-- A pass that accepts all of its lines is the feeding of them, and one that
stops has accepted the lines before the one it stops at. -/
theorem feedAll_forms (compilation : Compilation) (lines : List String) :
    compilation.feedAll lines = .ok (compilation.feedThrough lines) ∨
      ∃ before line diagnostic after, lines = before ++ line :: after ∧
        compilation.feedAll lines = .error diagnostic ∧
        ((compilation.feedThrough before).feedLine line).2 = .error diagnostic := by
  induction lines generalizing compilation with
  | nil => exact Or.inl rfl
  | cons line later inductionHypothesis =>
      rw [feedAll]
      cases fed : compilation.feedLine line with
      | mk reached outcome =>
          cases outcome with
          | error diagnostic =>
              refine Or.inr ⟨[], line, diagnostic, later, rfl, rfl, ?_⟩
              exact congrArg Prod.snd fed
          | ok accepted =>
              rcases inductionHypothesis reached with whole |
                ⟨before, stopped, diagnostic, after, split, failed, found⟩
              · refine Or.inl ?_
                rw [feedThrough_cons, fed]
                exact whole
              · refine Or.inr ⟨line :: before, stopped, diagnostic, after, ?_, failed, ?_⟩
                · rw [split, List.cons_append]
                · rw [feedThrough_cons, fed]
                  exact found

/-! ### Lines that are accepted -/

section Accepted

variable (holds : Compilation → List Record → Prop)
  (counted : ∀ reached earlier, holds reached earlier → holds reached.count earlier)
  (fed : ∀ reached earlier record next, holds reached earlier →
    Fed reached record next (.ok ()) → holds next (earlier ++ [record]))

include counted fed

theorem feedLine_accepted {earlier : List String} {line : String}
    (accepted : (compilation.feedLine line).2 = .ok ())
    (start : holds compilation (Firmware.records earlier)) :
    holds (compilation.feedLine line).1 (Firmware.records (earlier ++ [line])) := by
  -- An empty line and a line that is no record leave the records as they are.
  cases filled : line.isEmpty with
  | true =>
      rw [feedLine_of_empty filled,
        Firmware.records_append_error (parse_of_isEmpty filled)]
      exact counted compilation _ start
  | false =>
      cases parsed : Record.parse line with
      | error error =>
          rw [feedLine_of_error filled parsed] at accepted
          cases accepted
      | ok record =>
          rw [feedLine_of_record parsed] at accepted ⊢
          rw [Firmware.records_append_ok parsed]
          have came := feedRecord_fed compilation.count record
          cases outcome : (compilation.count.feedRecord record).2 with
          | error error =>
              rw [outcome] at accepted
              cases accepted
          | ok done =>
              rw [outcome] at came
              exact fed _ _ record _ (counted compilation _ start) came

theorem feedAll_accepted {lines : List String} {finished : Compilation}
    (earlier : List String) (accepted : compilation.feedAll lines = .ok finished)
    (start : holds compilation (Firmware.records earlier)) :
    holds finished (Firmware.records (earlier ++ lines)) := by
  induction lines generalizing compilation earlier with
  | nil =>
      cases accepted
      rw [List.append_nil]
      exact start
  | cons line later inductionHypothesis =>
      have step (passed : (compilation.feedLine line).2 = .ok ()) :=
        feedLine_accepted holds counted fed passed start
      rw [feedAll] at accepted
      cases came : compilation.feedLine line with
      | mk reached outcome =>
          rw [came] at accepted step
          cases outcome with
          | error diagnostic => cases accepted
          | ok done =>
              have whole := inductionHypothesis (earlier ++ [line]) accepted (step rfl)
              rw [List.append_assoc] at whole
              exact whole

end Accepted

end FlashScript.Compilation
