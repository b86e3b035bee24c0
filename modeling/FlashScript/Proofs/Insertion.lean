/-
Lines that ask for nothing.  A blank line, an end of the file and an extended
address that is in force already leave cursor and script as they are, wherever
they stand in a text, so that only the numbers of the lines after them change.
-/

import FlashScript.Proofs.Diagnosis

namespace FlashScript

/-- The diagnostic of the same line when it stands one line later. -/
def Diagnostic.oneLater (diagnostic : Diagnostic) : Diagnostic :=
  { diagnostic with line := diagnostic.line + 1 }

/-- The diagnostic of the same line when a line is put in after a place. -/
def Diagnostic.movedBehind (place : Nat) (diagnostic : Diagnostic) : Diagnostic :=
  { diagnostic with
    line := if diagnostic.line ≤ place then diagnostic.line else diagnostic.line + 1 }

/-- A line that asks for nothing after earlier ones. -/
inductive Firmware.Idle (earlier : List String) (line : String) : Prop where
  | blank (empty : line = "") : Idle earlier line
  | ending {record : Record} (parsed : Record.parse line = .ok record)
      (endOfFile : record.recordType = 1) : Idle earlier line
  | repeating {record : Record} (parsed : Record.parse line = .ok record)
      (extended : record.recordType = 4) (lowest : record.address = 0)
      (half : record.payload = [0, 0] ∨ record.payload = [0, 1])
      (same : (record.payload.getLastD 0).toNat = extension (records earlier)) :
      Idle earlier line

namespace Cursor

variable {cursor : Cursor} {record : Record} {earlier : List Record}

/-- Selecting the half that is selected already changes nothing. -/
theorem Follows.selectHalf_same (follows : cursor.Follows earlier)
    (lowest : record.address = 0)
    (half : record.payload = [0, 0] ∨ record.payload = [0, 1])
    (same : (record.payload.getLastD 0).toNat = Firmware.extension earlier) :
    cursor.selectHalf record = .ok cursor := by
  have base := follows.base
  rw [← same, Cursor.base] at base
  unfold selectHalf
  rw [if_neg (not_not_intro lowest)]
  cases cursor with
  | mk address upperHalf =>
      rcases half with lower | upper
      · rw [lower] at base ⊢
        cases upperHalf with
        | false => rfl
        | true => cases base
      · rw [upper] at base ⊢
        cases upperHalf with
        | false => cases base
        | true => rfl

end Cursor

namespace Compilation

open Firmware (Idle records)

variable {compilation reached : Compilation} {lines earlier : List String}
  {line : String} {record : Record} {diagnostic : Diagnostic}

/-! ### Parts of a pass -/

theorem feedAll_append (compilation : Compilation) (first second : List String) :
    compilation.feedAll (first ++ second) =
      (compilation.feedAll first).bind (fun reached => reached.feedAll second) := by
  induction first generalizing compilation with
  | nil => rfl
  | cons line later inductionHypothesis =>
      rw [List.cons_append, feedAll, feedAll]
      cases compilation.feedLine line with
      | mk reached outcome =>
          cases outcome with
          | error diagnostic => rfl
          | ok accepted => exact inductionHypothesis reached

theorem lines_feedAll (accepted : compilation.feedAll lines = .ok reached) :
    reached.lines = compilation.lines + lines.length := by
  induction lines generalizing compilation with
  | nil =>
      cases accepted
      rfl
  | cons line later inductionHypothesis =>
      have counted := lines_feedLine compilation line
      rw [feedAll] at accepted
      cases came : compilation.feedLine line with
      | mk next outcome =>
          rw [came] at accepted counted
          cases outcome with
          | error diagnostic => cases accepted
          | ok done =>
              have whole := inductionHypothesis accepted
              change next.lines = compilation.lines + 1 at counted
              rw [List.length_cons]
              omega

theorem line_of_feedLine_error
    (failed : (compilation.feedLine line).2 = .error diagnostic) :
    diagnostic.line = compilation.lines + 1 := by
  rcases feedLine_forms compilation line with passed | ⟨error, malformed⟩ |
    ⟨record, parsed, recorded⟩
  · rw [passed] at failed
    cases failed
  · rw [malformed] at failed
    cases failed
    rfl
  · rw [recorded] at failed
    cases came : (compilation.count.feedRecord record).2 with
    | ok accepted =>
        rw [came] at failed
        cases failed
    | error error =>
        rw [came] at failed
        cases failed
        rfl

/-- A pass stops at one of its own lines. -/
theorem line_of_feedAll_error (failed : compilation.feedAll lines = .error diagnostic) :
    compilation.lines < diagnostic.line ∧
      diagnostic.line ≤ compilation.lines + lines.length := by
  induction lines generalizing compilation with
  | nil => cases failed
  | cons line later inductionHypothesis =>
      have counted := lines_feedLine compilation line
      rw [feedAll] at failed
      rw [List.length_cons]
      cases came : compilation.feedLine line with
      | mk next outcome =>
          rw [came] at failed counted
          cases outcome with
          | error found =>
              cases failed
              have own := line_of_feedLine_error (congrArg Prod.snd came)
              omega
          | ok done =>
              have rest := inductionHypothesis failed
              change next.lines = compilation.lines + 1 at counted
              omega

/-! ### The number of lines before a pass -/

theorem feedRecord_count (compilation : Compilation) (record : Record) :
    compilation.count.feedRecord record =
      ((compilation.feedRecord record).1.count, (compilation.feedRecord record).2) := by
  simp only [feedRecord, count]
  cases compilation.cursor.place compilation.geometry record with
  | mk cursor outcome => rcases outcome with error | _ | burst <;> rfl

theorem feedLine_count (compilation : Compilation) (line : String) :
    compilation.count.feedLine line =
      ((compilation.feedLine line).1.count,
        (compilation.feedLine line).2.mapError Diagnostic.oneLater) := by
  cases filled : line.isEmpty with
  | true =>
      rw [feedLine_of_empty filled, feedLine_of_empty filled]
      rfl
  | false =>
      cases parsed : Record.parse line with
      | error error =>
          rw [feedLine_of_error filled parsed, feedLine_of_error filled parsed]
          rfl
      | ok record =>
          rw [feedLine_of_record parsed, feedLine_of_record parsed,
            feedRecord_count compilation.count]
          cases (compilation.count.feedRecord record).2 <;> rfl

/-- One line more before a pass is one more in all its line numbers. -/
theorem feedAll_count (compilation : Compilation) (lines : List String) :
    compilation.count.feedAll lines =
      ((compilation.feedAll lines).map count).mapError Diagnostic.oneLater := by
  induction lines generalizing compilation with
  | nil => rfl
  | cons line later inductionHypothesis =>
      rw [feedAll, feedAll, feedLine_count]
      cases compilation.feedLine line with
      | mk reached outcome =>
          cases outcome with
          | error diagnostic => rfl
          | ok accepted => exact inductionHypothesis reached

/-! ### Idle lines -/

theorem feedRecord_of_place
    (placed : compilation.cursor.place compilation.geometry record =
      (compilation.cursor, .ok none)) :
    compilation.feedRecord record = (compilation, .ok ()) := by
  rw [feedRecord, placed]

theorem feedLine_of_idle (follows : compilation.cursor.Follows (records earlier))
    (idle : Idle earlier line) :
    compilation.feedLine line = (compilation.count, .ok ()) := by
  cases idle with
  | blank empty =>
      apply feedLine_of_empty
      rw [empty]
      rfl
  | @ending record parsed endOfFile =>
      have placed : compilation.count.cursor.place compilation.count.geometry record =
          (compilation.count.cursor, .ok none) := Cursor.place_endOfFile endOfFile
      rw [feedLine_of_record parsed, feedRecord_of_place placed]
      rfl
  | @repeating record parsed extended lowest half same =>
      have selected : compilation.count.cursor.selectHalf record =
          .ok compilation.count.cursor := follows.selectHalf_same lowest half same
      have placed : compilation.count.cursor.place compilation.count.geometry record =
          (compilation.count.cursor, .ok none) := by
        rw [Cursor.place_extended extended, selected]
      rw [feedLine_of_record parsed, feedRecord_of_place placed]
      rfl

theorem follows_feedAll {device : Device} {before : List String}
    (accepted : (start device).feedAll before = .ok reached) :
    reached.cursor.Follows (records before) :=
  feedAll_accepted (fun reached earlier => reached.cursor.Follows earlier)
    (fun _ _ follows => follows) follows_fed [] accepted Cursor.follows_start

theorem compile_insert (device : Device) {before : List String} (after : List String)
    (idle : Idle before line) :
    compile device (before ++ line :: after) =
      (compile device (before ++ after)).mapError
        (Diagnostic.movedBehind before.length) := by
  rw [compile, compile, feedAll_append, feedAll_append]
  cases front : (start device).feedAll before with
  | error diagnostic =>
      -- The pass stops before it comes to the place.
      have bound := (line_of_feedAll_error front).2
      rw [show (start device).lines = 0 from rfl, Nat.zero_add] at bound
      have unmoved : diagnostic.movedBehind before.length = diagnostic := by
        rw [Diagnostic.movedBehind, if_pos bound]
      change Except.error diagnostic =
        Except.error (diagnostic.movedBehind before.length)
      rw [unmoved]
  | ok reached =>
      have counted : reached.lines = before.length := by
        rw [lines_feedAll front]
        exact Nat.zero_add before.length
      change (reached.feedAll (line :: after)).map _ =
        ((reached.feedAll after).map _).mapError _
      rw [feedAll, feedLine_of_idle (follows_feedAll front) idle]
      change (reached.count.feedAll after).map _ = _
      rw [feedAll_count]
      cases back : reached.feedAll after with
      | ok finished => rfl
      | error diagnostic =>
          have bound := (line_of_feedAll_error back).1
          have moved : diagnostic.movedBehind before.length = diagnostic.oneLater := by
            rw [Diagnostic.movedBehind, if_neg (by omega), Diagnostic.oneLater]
          change Except.error diagnostic.oneLater =
            Except.error (diagnostic.movedBehind before.length)
          rw [moved]

/-- A blank line at the end is never reported. -/
theorem compile_concat_blank (device : Device) (lines : List String) :
    compile device (lines ++ [""]) = compile device lines := by
  rw [compile, compile, feedAll_append]
  cases (start device).feedAll lines with
  | error diagnostic => rfl
  | ok reached =>
      change (reached.feedAll [""]).map _ = _
      rw [feedAll, feedLine_of_empty rfl]
      rfl

end Compilation

/-- A line that asks for nothing can be put in anywhere: the text compiles to the
same script as without it, or fails at the same line for the same reason, with a
number that counts the new line if it comes first. -/
theorem idle_line_moves_line_numbers_only (device : Device) (before after : List String)
    (line : String) (idle : Firmware.Idle before line) :
    let original := Compilation.compile device (before ++ after)
    let longer := Compilation.compile device (before ++ line :: after)
    (∀ script, longer = .ok script ↔ original = .ok script) ∧
      ∀ number content error,
        original = .error { line := number, content := content, error := error } →
          longer = .error
            { line := if number ≤ before.length then number else number + 1
              content := content
              error := error } := by
  intro original longer
  have same : longer = original.mapError (Diagnostic.movedBehind before.length) :=
    Compilation.compile_insert device after idle
  constructor
  · intro script
    rw [same]
    cases original with
    | ok compiled => exact Iff.rfl
    | error diagnostic => exact iff_of_false nofun nofun
  · intro number content error failed
    rw [same, failed]
    rfl

/-- The upper half is selected again before a line that is no record. -/
theorem idle_line_moves_line_numbers_only_of_repeated_half :
    Firmware.Idle [":020000040001F9"] ":020000040001f9" ∧
      Compilation.compile .pic16f1847
          [":020000040001F9", ":020000040001f9", ":02000E00FF3FB2", ":"] =
        .error { line := 4, content := ":", error := .record (.tooShort 0) } ∧
      ∃ script,
        Compilation.compile .pic16f1847
          [":020000040001F9", ":020000040001f9", ":02000E00FF3FB2"] = .ok script := by
  have parsed : Record.parse ":020000040001f9" =
      .ok
        { address := 0
          recordType := 4
          payload := [0, 1]
          payloadFits := by decide } := rfl
  have idle : Firmware.Idle [":020000040001F9"] ":020000040001f9" :=
    .repeating parsed rfl rfl (Or.inr rfl) (by decide)
  have stopped : Compilation.compile .pic16f1847
      ([":020000040001F9"] ++ [":02000E00FF3FB2", ":"]) =
        .error { line := 3, content := ":", error := .record (.tooShort 0) } :=
    Compilation.compile_error_iff.mpr (by decide)
  obtain ⟨script, compiled⟩ := Compilation.compile_ok_iff.mpr
    (by decide : Firmware.firstFault Device.pic16f1847.geometry
      ([":020000040001F9"] ++ [":02000E00FF3FB2"]) = none)
  have failure := (idle_line_moves_line_numbers_only .pic16f1847 [":020000040001F9"]
    [":02000E00FF3FB2", ":"] ":020000040001f9" idle).2 3 ":" _ stopped
  have success := ((idle_line_moves_line_numbers_only .pic16f1847 [":020000040001F9"]
    [":02000E00FF3FB2"] ":020000040001f9" idle).1 script).mpr compiled
  exact ⟨idle, failure, script, success⟩

end FlashScript
