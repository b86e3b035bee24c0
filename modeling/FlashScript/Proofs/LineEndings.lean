/-
Files whose lines end in one way or another.  The reader of a file finds the
lines that were joined, whichever terminator each of them got, so that compiling
the file is compiling these lines.  What is left of a line is read character by
character: a byte that is no part of a record text is an error of its line.
-/

import FlashScript.Proofs.Atomicity
import FlashScript.Proofs.Decoding
import FlashScript.Proofs.Failures
import FlashScript.Proofs.Grammar
import FlashScript.Proofs.Insertion

namespace FlashScript

namespace Lines

variable {line begun ended front back bytes : List UInt8} {byte last : UInt8}
  {lines : List (List UInt8)}

/-! ### Joined lines -/

/-- No line feed, and no carriage return at the end. -/
structure Plain (line : List UInt8) : Prop where
  unbroken : lineFeed ∉ line
  unreturned : line.getLast? ≠ some carriageReturn

/-- Every line but the last has one of the two terminators; the last may have
none. -/
inductive Joined : List (List UInt8) → List UInt8 → Prop where
  | none : Joined [] []
  | unterminated (line : List UInt8) : Joined [line] line
  | fed {lines : List (List UInt8)} {bytes : List UInt8} (line : List UInt8)
      (later : Joined lines bytes) :
      Joined (line :: lines) (line ++ lineFeed :: bytes)
  | returned {lines : List (List UInt8)} {bytes : List UInt8} (line : List UInt8)
      (later : Joined lines bytes) :
      Joined (line :: lines) (line ++ carriageReturn :: lineFeed :: bytes)

theorem cut_cons_lineFeed (rest : List UInt8) :
    cut (lineFeed :: rest) = [lineFeed] :: cut rest := rfl

theorem cut_cons_of_ne (other : byte ≠ lineFeed) (rest : List UInt8) :
    cut (byte :: rest) =
      (byte :: (cut rest).headD []) :: (cut rest).tail := by
  unfold cut
  rw [List.foldr_cons, if_neg other]
  generalize List.foldr _ _ rest = lines
  cases lines <;> rfl

theorem cut_append_lineFeed (unbroken : lineFeed ∉ line) (rest : List UInt8) :
    cut (line ++ lineFeed :: rest) = (line ++ [lineFeed]) :: cut rest := by
  induction line with
  | nil => exact cut_cons_lineFeed rest
  | cons byte later inductionHypothesis =>
      obtain ⟨other, unbroken⟩ := List.ne_and_not_mem_of_not_mem_cons unbroken
      rw [List.cons_append, cut_cons_of_ne other.symm, inductionHypothesis unbroken]
      rfl

theorem cut_of_unbroken (unbroken : lineFeed ∉ line) (filled : line ≠ []) :
    cut line = [line] := by
  induction line with
  | nil => exact absurd rfl filled
  | cons byte later inductionHypothesis =>
      obtain ⟨other, unbroken⟩ := List.ne_and_not_mem_of_not_mem_cons unbroken
      rw [cut_cons_of_ne other.symm]
      cases later with
      | nil => rfl
      | cons next later =>
          rw [inductionHypothesis unbroken (List.cons_ne_nil next later)]
          rfl

theorem dropLast_concat (last : UInt8) (line : List UInt8) :
    dropLast last (line ++ [last]) = line := by
  rw [dropLast, if_pos List.getLast?_concat, List.dropLast_concat]

theorem dropLast_of_ne (other : line.getLast? ≠ some last) :
    dropLast last line = line := by
  rw [dropLast, if_neg other]

theorem Plain.content_eq (plain : Plain line) : content line = line := by
  have unfed : line.getLast? ≠ some lineFeed :=
    fun found => plain.unbroken (List.mem_of_getLast? found)
  rw [content, dropLast_of_ne unfed, dropLast_of_ne plain.unreturned]

theorem Plain.content_fed (plain : Plain line) : content (line ++ [lineFeed]) = line := by
  rw [content, dropLast_concat, dropLast_of_ne plain.unreturned]

/-- Of several carriage returns only the last one goes. -/
theorem content_returned (line : List UInt8) :
    content (line ++ [carriageReturn] ++ [lineFeed]) = line := by
  rw [content, dropLast_concat, dropLast_concat]

theorem contents_append_lineFeed (unbroken : lineFeed ∉ line) (rest : List UInt8) :
    contents (line ++ lineFeed :: rest) =
      content (line ++ [lineFeed]) :: contents rest := by
  rw [contents, cut_append_lineFeed unbroken]
  rfl

/-- A last line that is empty and has no terminator is no line. -/
theorem Joined.contents (joined : Joined lines bytes)
    (plain : ∀ line ∈ lines, Plain line) :
    Lines.contents bytes = lines ∨ Lines.contents bytes ++ [[]] = lines := by
  induction joined with
  | none => exact Or.inl rfl
  | unterminated line =>
      have own := plain line (List.mem_singleton_self line)
      by_cases filled : line = []
      · cases filled
        exact Or.inr rfl
      · left
        rw [Lines.contents, cut_of_unbroken own.unbroken filled, List.map_singleton,
          own.content_eq]
  | fed line later inductionHypothesis =>
      obtain ⟨own, others⟩ := List.forall_mem_cons.mp plain
      rw [contents_append_lineFeed own.unbroken, own.content_fed]
      exact (inductionHypothesis others).imp (congrArg (line :: ·))
        (congrArg (line :: ·))
  | returned line later inductionHypothesis =>
      obtain ⟨own, others⟩ := List.forall_mem_cons.mp plain
      have unbroken : lineFeed ∉ line ++ [carriageReturn] := by
        simpa [lineFeed, carriageReturn] using own.unbroken
      rw [List.append_cons, contents_append_lineFeed unbroken, content_returned]
      exact (inductionHypothesis others).imp (congrArg (line :: ·))
        (congrArg (line :: ·))

/-! ### Bytes of a line -/

theorem head?_headD_cut (bytes : List UInt8) :
    ((cut bytes).headD []).head? = bytes.head? := by
  cases bytes with
  | nil => rfl
  | cons byte rest =>
      by_cases feed : byte = lineFeed
      · rw [feed, cut_cons_lineFeed]
        rfl
      · rw [cut_cons_of_ne feed]
        rfl

/-- The line of a byte is found by counting the line feeds before it, and ends
where the first line of what comes after the byte ends. -/
theorem exists_getElem?_cut (front : List UInt8) (other : byte ≠ lineFeed)
    (back : List UInt8) :
    ∃ begun, (cut (front ++ byte :: back))[front.count lineFeed]? =
      some (begun ++ byte :: (cut back).headD []) := by
  induction front with
  | nil =>
      refine ⟨[], ?_⟩
      rw [List.nil_append, cut_cons_of_ne other]
      rfl
  | cons first later inductionHypothesis =>
      obtain ⟨begun, found⟩ := inductionHypothesis
      rw [List.cons_append]
      by_cases feed : first = lineFeed
      · refine ⟨begun, ?_⟩
        rw [feed, cut_cons_lineFeed, List.count_cons_self, List.getElem?_cons_succ]
        exact found
      · -- The first byte joins the first line, which may be the one found.
        rw [cut_cons_of_ne feed, List.count_cons_of_ne feed]
        cases lines : cut (later ++ byte :: back) with
        | nil =>
            rw [lines] at found
            cases found
        | cons line rest =>
            rw [lines] at found
            cases place : later.count lineFeed with
            | zero =>
                rw [place] at found
                cases found
                exact ⟨first :: begun, rfl⟩
            | succ lesser =>
                rw [place] at found
                exact ⟨begun, found⟩

theorem exists_dropped (last : UInt8) (line : List UInt8) :
    ∃ dropped, dropLast last line ++ dropped = line ∧
      (dropped = [] ∨ dropped = [last]) := by
  by_cases found : line.getLast? = some last
  · obtain ⟨front, rfl⟩ := List.getLast?_eq_some_iff.mp found
    rw [dropLast_concat]
    exact ⟨[last], rfl, Or.inr rfl⟩
  · rw [dropLast_of_ne found]
    exact ⟨[], List.append_nil line, Or.inl rfl⟩

/-- What a line loses: at most one carriage return, and then at most one line
feed. -/
theorem exists_ending (line : List UInt8) :
    ∃ returned fed, content line ++ (returned ++ fed) = line ∧
      (returned = [] ∨ returned = [carriageReturn]) ∧ (fed = [] ∨ fed = [lineFeed]) := by
  obtain ⟨fed, whole, feed⟩ := exists_dropped lineFeed line
  obtain ⟨returned, unfed, mark⟩ :=
    exists_dropped carriageReturn (dropLast lineFeed line)
  refine ⟨returned, fed, ?_, mark, feed⟩
  rw [content, ← List.append_assoc, unfed, whole]

theorem mem_content (member : byte ∈ line) (unfed : byte ≠ lineFeed)
    (unreturned : byte ≠ carriageReturn) : byte ∈ content line := by
  obtain ⟨returned, fed, whole, mark, feed⟩ := exists_ending line
  rw [← whole] at member
  rcases List.mem_append.mp member with own | ending
  · exact own
  · rcases List.mem_append.mp ending with atReturn | atFeed
    · rcases mark with rfl | rfl
      · cases atReturn
      · exact absurd (List.mem_singleton.mp atReturn) unreturned
    · rcases feed with rfl | rfl
      · cases atFeed
      · exact absurd (List.mem_singleton.mp atFeed) unfed

/-- A carriage return that its line loses stands at the end of it. -/
theorem ended_of_return
    (lost : carriageReturn ∉ content (begun ++ carriageReturn :: ended)) :
    ended = [] ∨ ended = [lineFeed] := by
  obtain ⟨returned, fed, whole, mark, feed⟩ :=
    exists_ending (begun ++ carriageReturn :: ended)
  -- What is kept has no carriage return, so this one is among what is lost.
  have within : ∃ before, returned ++ fed = before ++ carriageReturn :: ended := by
    rcases List.append_eq_append_iff.mp whole with
      ⟨before, _, behind⟩ | ⟨kept, own, behind⟩
    · exact ⟨before, behind⟩
    · cases kept with
      | nil => exact ⟨[], behind.symm⟩
      | cons first later =>
          cases behind
          rw [own] at lost
          exact absurd List.mem_append_cons_self lost
  have unmarked (before : List UInt8) : fed ≠ before ++ carriageReturn :: ended := by
    intro same
    have member : carriageReturn ∈ fed := by
      rw [same]
      exact List.mem_append_cons_self
    rcases feed with rfl | rfl
    · cases member
    · cases List.mem_singleton.mp member
  obtain ⟨before, same⟩ := within
  rcases mark with rfl | rfl
  · exact absurd same (unmarked before)
  · cases before with
    | nil =>
        cases same
        exact feed
    | cons first later =>
        exact absurd (List.cons.inj same).2 (unmarked later)

end Lines

/-! ### Characters of a line -/

/-- The text is that of no record, whatever its bytes would say. -/
def LineError.Textual (error : LineError) : Prop :=
  error = .record .malformed ∨ ∃ digit, error = .record (.invalidHexDigit digit)

/-- The characters that the text of a record has. -/
def Record.Spelling (character : Char) : Prop :=
  character = ':' ∨ Hex.Valued character

theorem Record.Spelling.toNat_lt {character : Char}
    (spelling : Record.Spelling character) : character.toNat < 128 := by
  rcases spelling with rfl | valued
  · decide
  · exact valued.toNat_lt

theorem Record.textual_or_spelling (text : String) :
    (∃ error, Record.parse text = .error error ∧
      LineError.Textual (.record error)) ∨
        ∀ character ∈ text.toList, Record.Spelling character := by
  have said : Record.SaidBy text (Record.parse text) :=
    Record.saidBy_of_parseWith Hex.decodes_decodeOctets? rfl
  generalize Record.parse text = outcome at said
  cases said with
  | unmarked other => exact Or.inl ⟨_, rfl, Or.inl rfl⟩
  | foreign marked digits other => exact Or.inl ⟨_, rfl, Or.inr ⟨_, rfl⟩⟩
  | unpaired marked valued odd => exact Or.inl ⟨_, rfl, Or.inl rfl⟩
  | decoded marked spells said =>
      right
      intro character member
      rw [marked] at member
      exact (List.mem_cons.mp member).imp id (spells.paired.2 character)

namespace Firmware

variable {geometry : Geometry} {earlier : List Record} {text : String}

/-- The lines before it do not matter for an error of the text itself. -/
theorem lineFault_of_large {character : Char} (member : character ∈ text.toList)
    (large : 128 ≤ character.toNat) (geometry : Geometry) (earlier : List Record) :
    ∃ error, lineFault geometry earlier text = some error ∧ error.Textual := by
  have filled : ¬text.isEmpty = true := by
    intro empty
    rw [String.isEmpty_iff.mp empty] at member
    cases member
  rw [lineFault, if_neg filled]
  rcases Record.textual_or_spelling text with ⟨error, parsed, textual⟩ | spelled
  · rw [parsed]
    exact ⟨_, rfl, textual⟩
  · have small := (spelled character member).toNat_lt
    omega

theorem spelling_of_lineFault (faultless : lineFault geometry earlier text = none) :
    ∀ character ∈ text.toList, Record.Spelling character := by
  rcases Record.textual_or_spelling text with ⟨error, parsed, textual⟩ | spelled
  · rw [lineFault] at faultless
    split at faultless
    · rename_i empty
      rw [String.isEmpty_iff.mp empty]
      intro character member
      cases member
    · rw [parsed] at faultless
      cases faultless
  · exact spelled

end Firmware

namespace Compilation

variable {device : Device} {texts : List String} {text : String} {place : Nat}

theorem not_legal_of_large {character : Char} {earlier : List String}
    (present : text ∈ texts) (member : character ∈ text.toList)
    (large : 128 ≤ character.toNat) :
    ¬Firmware.LegalAfter device.geometry earlier texts := by
  intro legal
  obtain ⟨before, after, split⟩ := List.append_of_mem present
  obtain ⟨error, fault, _⟩ := Firmware.lineFault_of_large member large device.geometry
    (Firmware.records (earlier ++ before))
  rw [legal before text after split] at fault
  cases fault

/-- A line with a character outside ASCII is an error of its text, unless an
earlier line is at fault. -/
theorem compile_of_large {character : Char} (found : texts[place]? = some text)
    (member : character ∈ text.toList) (large : 128 ≤ character.toNat) :
    ∃ diagnostic, compile device texts = .error diagnostic ∧
      diagnostic.line ≤ place + 1 ∧
      (diagnostic.line = place + 1 → diagnostic.error.Textual) := by
  cases compiled : compile device texts with
  | ok script =>
      exact absurd (legal_of_compile compiled)
        (not_legal_of_large (List.mem_of_getElem? found) member large)
  | error diagnostic =>
      obtain ⟨before, line, after, split, legal, fault, number, _⟩ :=
        firstIllegal_of_compile compiled
      rw [List.nil_append] at fault number
      -- The lines before the one that stopped the pass have no fault.
      have reached : before.length ≤ place := by
        apply Nat.le_of_not_lt
        intro earlier
        rw [split, List.getElem?_append_left earlier] at found
        exact not_legal_of_large (List.mem_of_getElem? found) member large legal
      refine ⟨diagnostic, rfl, by omega, ?_⟩
      intro own
      have last : place = before.length := by omega
      rw [last, split, List.getElem?_append_right (Nat.le_refl _), Nat.sub_self] at found
      cases found
      obtain ⟨error, same, textual⟩ := Firmware.lineFault_of_large member large
        device.geometry (Firmware.records before)
      rw [fault] at same
      cases same
      exact textual

theorem spelling_of_compile {script : Script}
    (compiled : compile device texts = .ok script) (member : text ∈ texts) :
    ∀ character ∈ text.toList, Record.Spelling character := by
  obtain ⟨before, after, split⟩ := List.append_of_mem member
  exact Firmware.spelling_of_lineFault (legal_of_compile compiled before text after split)

end Compilation

/-! ### Files -/

namespace Conversion

variable {conversion : Conversion} {before : Holdings} {bytes front back : List UInt8}
  {byte : UInt8} {device : Device} {script : Script}

theorem linesOf_of_joined {lines : List (List UInt8)} (joined : Lines.Joined lines bytes)
    (plain : ∀ line ∈ lines, Lines.Plain line) :
    linesOf bytes = lines.map Utf8.decodeLossy ∨
      linesOf bytes ++ [""] = lines.map Utf8.decodeLossy := by
  rcases joined.contents plain with same | shorter
  · left
    rw [linesOf, same]
  · right
    rw [linesOf, ← shorter, List.map_append]
    rfl

theorem compile_linesOf_of_joined {lines : List (List UInt8)}
    (joined : Lines.Joined lines bytes) (plain : ∀ line ∈ lines, Lines.Plain line) :
    Compilation.compile device (linesOf bytes) =
      Compilation.compile device (lines.map Utf8.decodeLossy) := by
  rcases linesOf_of_joined joined plain with same | shorter
  · rw [same]
  · rw [← shorter, Compilation.compile_concat_blank]

theorem exists_getElem?_linesOf (front : List UInt8) (other : byte ≠ Lines.lineFeed)
    (back : List UInt8) :
    ∃ begun, (linesOf (front ++ byte :: back))[front.count Lines.lineFeed]? =
      some (Utf8.decodeLossy
        (Lines.content (begun ++ byte :: (Lines.cut back).headD []))) := by
  obtain ⟨begun, found⟩ := Lines.exists_getElem?_cut front other back
  refine ⟨begun, ?_⟩
  rw [linesOf, Lines.contents, List.map_map, List.getElem?_map, found]
  rfl

theorem compile_linesOf_of_large (device : Device) (front back : List UInt8)
    (large : 128 ≤ byte.toNat) :
    ∃ diagnostic,
      Compilation.compile device (linesOf (front ++ byte :: back)) = .error diagnostic ∧
        diagnostic.line ≤ front.count Lines.lineFeed + 1 ∧
        (diagnostic.line = front.count Lines.lineFeed + 1 →
          diagnostic.error.Textual) := by
  have unfed : byte ≠ Lines.lineFeed := by
    rintro rfl
    exact absurd large (by decide)
  have unreturned : byte ≠ Lines.carriageReturn := by
    rintro rfl
    exact absurd large (by decide)
  obtain ⟨begun, found⟩ := exists_getElem?_linesOf front unfed back
  have member : byte ∈ Lines.content (begun ++ byte :: (Lines.cut back).headD []) :=
    Lines.mem_content List.mem_append_cons_self unfed unreturned
  obtain ⟨character, own, above⟩ := Utf8.exists_large_of_byte member large
  exact Compilation.compile_of_large found own above

theorem spelling_of_decodeLossy
    (spelled : ∀ character ∈ (Utf8.decodeLossy bytes).toList, Record.Spelling character) :
    ∀ byte ∈ bytes, byte = 0x3A ∨ Hex.Valued (Char.ofUInt8 byte) := by
  have ascii : ∀ byte ∈ bytes, byte.toNat < 128 := by
    intro byte member
    apply Nat.lt_of_not_le
    intro large
    obtain ⟨character, own, above⟩ := Utf8.exists_large_of_byte member large
    exact absurd above (Nat.not_le_of_lt (spelled character own).toNat_lt)
  intro byte member
  rw [Utf8.decodeLossy_of_ascii ascii] at spelled
  refine (List.forall_mem_map.mp spelled byte member).imp ?_ id
  intro colon
  apply UInt8.toNat_inj.mp
  rw [← Hex.toNat_ofUInt8, colon]
  rfl

theorem byte_of_compile
    (compiled :
      Compilation.compile device (linesOf (front ++ byte :: back)) = .ok script) :
    byte = Lines.lineFeed ∨
      byte = Lines.carriageReturn ∧ (back = [] ∨ back.head? = some Lines.lineFeed) ∨
      byte = 0x3A ∨ Hex.Valued (Char.ofUInt8 byte) := by
  by_cases unfed : byte = Lines.lineFeed
  · exact Or.inl unfed
  right
  obtain ⟨begun, found⟩ := exists_getElem?_linesOf front unfed back
  have spelled := spelling_of_decodeLossy
    (Compilation.spelling_of_compile compiled (List.mem_of_getElem? found))
  by_cases unreturned : byte = Lines.carriageReturn
  · left
    cases unreturned
    have lost : Lines.carriageReturn ∉ Lines.content
        (begun ++ Lines.carriageReturn :: (Lines.cut back).headD []) := by
      intro kept
      exact absurd (spelled _ kept) (by decide)
    have head := Lines.head?_headD_cut back
    rcases Lines.ended_of_return lost with ended | ended
    · rw [ended] at head
      exact ⟨rfl, Or.inl (List.head?_eq_none_iff.mp head.symm)⟩
    · rw [ended] at head
      exact ⟨rfl, Or.inr head.symm⟩
  · right
    exact spelled byte (Lines.mem_content List.mem_append_cons_self unfed unreturned)

/-! ### Compiling the input of a conversion -/

/-- The steps of a run from the input to its script. -/
def compileInput (conversion : Conversion) :
    ExceptT ConversionError (StateM Session) Script := do
  let bytes ← attempt (.inputUnavailable conversion.input) (Host.read conversion.input)
  conversion.compileLines (linesOf bytes)

theorem run_eq_compileInput_bind (conversion : Conversion) :
    conversion.run = (do
      say conversion.beginning
      let script ← conversion.compileInput
      say (Narration.ofSummary (Summary.ofScript script))
      say conversion.writing
      conversion.finish script) := by
  unfold run compileInput finish
  simp only [bind_assoc]

theorem ends_compileInput (read : before.files.read conversion.input = .ok bytes) :
    Ends conversion.compileInput before
      ((Compilation.compile conversion.device (linesOf bytes)).mapError .compile)
      before := by
  unfold compileInput
  refine (ends_attempt_read _ read).bind ?_
  cases compiled : Compilation.compile conversion.device (linesOf bytes) with
  | ok script => exact ends_compileLines compiled
  | error diagnostic => exact ends_compileLines_of_error compiled

/-- What comes of compiling the input of a conversion in a session. -/
def compiledIn (conversion : Conversion) (session : Session) :
    Except ConversionError Script :=
  (conversion.compileInput.run.run session).1

section Sessions

variable {session : Session}

theorem compiledIn_eq (read : session.files.read conversion.input = .ok bytes) :
    conversion.compiledIn session =
      (Compilation.compile conversion.device (linesOf bytes)).mapError .compile := by
  have ends : Ends conversion.compileInput session.holdings _ session.holdings :=
    ends_compileInput read
  exact (ends session rfl).1

theorem compiledIn_ok (read : session.files.read conversion.input = .ok bytes)
    (finished : conversion.compiledIn session = .ok script) :
    Compilation.compile conversion.device (linesOf bytes) = .ok script := by
  rw [compiledIn_eq read] at finished
  cases compiled : Compilation.compile conversion.device (linesOf bytes) with
  | ok found =>
      rw [compiled] at finished
      cases finished
      rfl
  | error diagnostic =>
      rw [compiled] at finished
      cases finished

/-- A run ends with the error that compiling its input ends with. -/
theorem outcome_of_compiledIn_error {error : ConversionError}
    (read : session.files.read conversion.input = .ok bytes)
    (failed : conversion.compiledIn session = .error error) :
    conversion.outcome session = .error error := by
  have ends : Ends conversion.compileInput session.holdings _ session.holdings :=
    ends_compileInput read
  rw [← compiledIn_eq read, failed] at ends
  rw [outcome, run_eq_compileInput_bind]
  exact (((ends_say _).bind ends.stop) session rfl).1

end Sessions

end Conversion

/-- Compiling a file is compiling its lines, whichever terminators join them.  A
byte outside ASCII is an error of the text of its line if no earlier line is at
fault, so that a file that compiles has line feeds, carriage returns that end a
line, colons and digits only.  What compiling says of a file is what a run says. -/
theorem file_compiles_as_its_lines (conversion : Conversion) (session : Session)
    (bytes : List UInt8) (read : session.files.read conversion.input = .ok bytes) :
    let compiled := conversion.compiledIn session
    (∀ lines, (∀ line ∈ lines, Lines.Plain line) → Lines.Joined lines bytes →
        compiled = (Compilation.compile conversion.device
          (lines.map Utf8.decodeLossy)).mapError .compile) ∧
      (∀ front byte back, bytes = front ++ byte :: back → 128 ≤ byte.toNat →
        ∃ diagnostic, compiled = .error (.compile diagnostic) ∧
          diagnostic.line ≤ front.count Lines.lineFeed + 1 ∧
          (diagnostic.line = front.count Lines.lineFeed + 1 →
            diagnostic.error = .record .malformed ∨
              ∃ digit, diagnostic.error = .record (.invalidHexDigit digit))) ∧
      (∀ script, compiled = .ok script →
        ∀ front byte back, bytes = front ++ byte :: back →
          byte = Lines.lineFeed ∨
            byte = Lines.carriageReturn ∧
              (back = [] ∨ back.head? = some Lines.lineFeed) ∨
            byte = 0x3A ∨ Hex.Valued (Char.ofUInt8 byte)) ∧
      ∀ error, compiled = .error error → conversion.outcome session = .error error := by
  intro compiled
  have same : compiled = _ := Conversion.compiledIn_eq read
  refine ⟨?_, ?_, ?_, ?_⟩
  · intro lines plain joined
    rw [same, Conversion.compile_linesOf_of_joined joined plain]
  · intro front byte back split large
    obtain ⟨diagnostic, failed, number, own⟩ :=
      Conversion.compile_linesOf_of_large conversion.device front back large
    rw [← split] at failed
    refine ⟨diagnostic, ?_, number, own⟩
    rw [same, failed]
    rfl
  · intro script finished front byte back split
    have found := Conversion.compiledIn_ok read finished
    rw [split] at found
    exact Conversion.byte_of_compile found
  · intro error failed
    exact Conversion.outcome_of_compiledIn_error read failed

/-- Both terminators, a blank line, and a last line that has neither terminator
nor valid text; and a file that ends with a lone carriage return. -/
theorem file_compiles_as_its_lines_of_mixed_terminators :
    let endOfFile : List UInt8 :=
      [0x3A, 0x30, 0x30, 0x30, 0x30, 0x30, 0x30, 0x30, 0x31, 0x46, 0x46]
    let broken : List UInt8 := [0x3A, 0x30, 0xFF]
    let directory := Location.root.enter ['d']
    let firmware := directory.enter ['a']
    let conversion : Conversion :=
      { input := "a"
        output := "b"
        loader := "L"
        device := .pic16f1847 }
    let mixed := Session.start
      { workingDirectory := directory
        entries := [(firmware, .file (endOfFile ++ 0x0D :: 0x0A :: 0x0A :: broken))] } []
    let returned := Session.start
      { workingDirectory := directory
        entries := [(firmware, .file (endOfFile ++ [0x0D]))] } []
    let failure : ConversionError := .compile
      { line := 3
        content := ":0\uFFFD"
        error := .record (.invalidHexDigit '\uFFFD') }
    conversion.compiledIn mixed = .error failure ∧
      conversion.outcome mixed = .error failure ∧
      conversion.compiledIn returned = .ok (Script.empty 0x1480) ∧
      ∀ front byte back, endOfFile ++ [0x0D] = front ++ byte :: back →
        byte = Lines.lineFeed ∨
          byte = Lines.carriageReturn ∧
            (back = [] ∨ back.head? = some Lines.lineFeed) ∨
          byte = 0x3A ∨ Hex.Valued (Char.ofUInt8 byte) := by
  intro endOfFile broken directory firmware conversion mixed returned failure
  have joined : Lines.Joined [endOfFile, [], broken]
      (endOfFile ++ 0x0D :: 0x0A :: 0x0A :: broken) :=
    .returned endOfFile (.fed [] (.unterminated broken))
  have plain : ∀ line ∈ [endOfFile, [], broken], Lines.Plain line := by
    have first : Lines.Plain endOfFile := ⟨by decide, by decide⟩
    have blank : Lines.Plain [] := ⟨by decide, by decide⟩
    have last : Lines.Plain broken := ⟨by decide, by decide⟩
    simp only [List.forall_mem_cons]
    exact ⟨first, blank, last, nofun⟩
  have readMixed : mixed.files.read conversion.input =
      .ok (endOfFile ++ 0x0D :: 0x0A :: 0x0A :: broken) := by
    dsimp only [conversion, mixed, firmware, directory, endOfFile, broken]
    rfl
  have readReturned : returned.files.read conversion.input =
      .ok (endOfFile ++ [0x0D]) := by
    dsimp only [conversion, returned, firmware, directory, endOfFile]
    rfl
  obtain ⟨lines, _, _, runs⟩ := file_compiles_as_its_lines conversion mixed _ readMixed
  obtain ⟨_, _, bytes, _⟩ :=
    file_compiles_as_its_lines conversion returned _ readReturned
  have failed : conversion.compiledIn mixed = .error failure := by
    rw [lines _ plain joined]
    dsimp only [conversion, failure, endOfFile, broken]
    rfl
  have finished : conversion.compiledIn returned = .ok (Script.empty 0x1480) := by
    rw [Conversion.compiledIn_eq readReturned]
    dsimp only [conversion, endOfFile]
    rfl
  exact ⟨failed, runs _ failed, finished, bytes _ finished⟩

end FlashScript
