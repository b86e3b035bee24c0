/-
Questions on the terminal.  The lines of the input are scanned up to the first one
that is no text or holds a usable answer; the question is shown for each line that
is read, and once more if the input ends without an answer.  A second question goes
on with the lines that the first one left.
-/

import FlashScript.Proofs.Choice
import FlashScript.Proofs.Encoding
import FlashScript.Proofs.LineEndings

namespace FlashScript

/-! ### Lines of an input -/

namespace Lines

variable {bytes rest line : List UInt8} {lines front back : List (List UInt8)}
  {byte : UInt8}

/-- Bytes that are cut after each line feed; what follows the last one is a line too
unless it is empty. -/
inductive Divides : List UInt8 → List (List UInt8) → Prop where
  | none : Divides [] []
  | unterminated {line : List UInt8} (filled : line ≠ []) (unbroken : lineFeed ∉ line) :
      Divides line [line]
  | terminated {line rest : List UInt8} {lines : List (List UInt8)}
      (unbroken : lineFeed ∉ line) (later : Divides rest lines) :
      Divides (line ++ lineFeed :: rest) ((line ++ [lineFeed]) :: lines)

theorem Divides.cut_eq (divides : Divides bytes lines) : cut bytes = lines := by
  induction divides with
  | none => rfl
  | unterminated filled unbroken => exact cut_of_unbroken unbroken filled
  | terminated unbroken later inductionHypothesis =>
      rw [cut_append_lineFeed unbroken, inductionHypothesis]

theorem Divides.cons_of_ne (other : byte ≠ lineFeed) (divides : Divides rest lines) :
    Divides (byte :: rest) ((byte :: lines.headD []) :: lines.tail) := by
  cases divides with
  | none =>
      refine .unterminated (List.cons_ne_nil _ _) ?_
      exact List.not_mem_cons_of_ne_of_not_mem other.symm List.not_mem_nil
  | unterminated filled unbroken =>
      exact .unterminated (List.cons_ne_nil _ _)
        (List.not_mem_cons_of_ne_of_not_mem other.symm unbroken)
  | terminated unbroken later =>
      exact .terminated (List.not_mem_cons_of_ne_of_not_mem other.symm unbroken) later

theorem divides_cut (bytes : List UInt8) : Divides bytes (cut bytes) := by
  induction bytes with
  | nil => exact .none
  | cons byte rest inductionHypothesis =>
      by_cases feed : byte = lineFeed
      · rw [feed, cut_cons_lineFeed]
        exact .terminated List.not_mem_nil inductionHypothesis
      · rw [cut_cons_of_ne feed]
        exact inductionHypothesis.cons_of_ne feed

theorem Divides.flatten_eq (divides : Divides bytes lines) : lines.flatten = bytes := by
  rw [← divides.cut_eq, cut_flatten]

/-- The lines that are left are those of the bytes that are left. -/
theorem Divides.of_append (divides : Divides bytes (front ++ back)) :
    Divides back.flatten back := by
  induction front generalizing bytes with
  | nil =>
      have whole : back.flatten = bytes := divides.flatten_eq
      rw [whole]
      exact divides
  | cons line later inductionHypothesis =>
      generalize whole : line :: later ++ back = lines at divides
      cases divides with
      | none => cases whole
      | unterminated filled unbroken =>
          have none := (List.cons.inj whole).2
          rw [(List.append_eq_nil_iff.mp none).2]
          exact .none
      | terminated unbroken divides =>
          have same := (List.cons.inj whole).2
          rw [← same] at divides
          exact inductionHypothesis divides

end Lines

/-! ### Scans -/

namespace Question

variable {α : Type} {usable : String → α → Prop} {line : List UInt8}
  {lines before later : List (List UInt8)} {core : String} {answer : α}
  {question : Question α}

/-- What a line tells: its text without the blanks around it. -/
def Tells (line : List UInt8) (core : String) : Prop :=
  ∃ text : String, text.toByteArray = line.toByteArray ∧
    Blank.Trims text.toList core.toList

/-- A line that is text but no answer. -/
def Passes (usable : String → α → Prop) (line : List UInt8) : Prop :=
  ∃ core, Tells line core ∧ ∀ answer, ¬usable core answer

structure Scanned (α : Type) where
  result : Except AnswerError α
  read : List (List UInt8)
  unread : List (List UInt8)
  /-- How many times the question was shown. -/
  shown : Nat

/-- A scan ends at the first line that is no text or a usable answer, or else at the
end of the lines. -/
inductive Scan (usable : String → α → Prop) :
    List (List UInt8) → Scanned α → Prop where
  | answered {before later : List (List UInt8)} {line : List UInt8} {core : String}
      {answer : α} (passed : ∀ earlier ∈ before, Passes usable earlier)
      (tells : Tells line core) (accepted : usable core answer) :
      Scan usable (before ++ line :: later)
        { result := .ok answer
          read := before ++ [line]
          unread := later
          shown := before.length + 1 }
  | garbled {before later : List (List UInt8)} {line : List UInt8}
      (passed : ∀ earlier ∈ before, Passes usable earlier)
      (invalid : ¬line.toByteArray.IsValidUTF8) :
      Scan usable (before ++ line :: later)
        { result := .error .notText
          read := before ++ [line]
          unread := later
          shown := before.length + 1 }
  | exhausted {lines : List (List UInt8)}
      (passed : ∀ line ∈ lines, Passes usable line) :
      Scan usable lines
        { result := .error .noAnswer
          read := lines
          unread := []
          shown := lines.length + 1 }

theorem exists_tells (valid : line.toByteArray.IsValidUTF8) : ∃ core, Tells line core := by
  let text : String := ⟨line.toByteArray, valid⟩
  exact ⟨Blank.trimmed text, text, rfl, Blank.trimmed_eq_iff.mp rfl⟩

theorem Scan.after_passed {scanned : Scanned α} (passes : Passes usable line)
    (scan : Scan usable later scanned) :
    Scan usable (line :: later)
      { scanned with
        read := line :: scanned.read
        shown := scanned.shown + 1 } := by
  cases scan with
  | answered passed tells accepted =>
      exact .answered (List.forall_mem_cons.mpr ⟨passes, passed⟩) tells accepted
  | garbled passed invalid =>
      exact .garbled (List.forall_mem_cons.mpr ⟨passes, passed⟩) invalid
  | exhausted passed => exact .exhausted (List.forall_mem_cons.mpr ⟨passes, passed⟩)

theorem exists_scan (usable : String → α → Prop) (lines : List (List UInt8)) :
    ∃ scanned, Scan usable lines scanned := by
  induction lines with
  | nil => exact ⟨_, .exhausted nofun⟩
  | cons line later inductionHypothesis =>
      by_cases valid : line.toByteArray.IsValidUTF8
      · obtain ⟨core, tells⟩ := exists_tells valid
        by_cases accepted : ∃ answer, usable core answer
        · obtain ⟨answer, accepted⟩ := accepted
          exact
            ⟨_, @Scan.answered α usable [] later line core answer nofun tells accepted⟩
        · obtain ⟨scanned, scan⟩ := inductionHypothesis
          exact ⟨_, scan.after_passed ⟨core, tells, not_exists.mp accepted⟩⟩
      · exact ⟨_, @Scan.garbled α usable [] later line nofun valid⟩

theorem Scan.read_append_unread {scanned : Scanned α} (scan : Scan usable lines scanned) :
    scanned.read ++ scanned.unread = lines := by
  cases scan with
  | answered => exact (List.append_cons _ _ _).symm
  | garbled => exact (List.append_cons _ _ _).symm
  | exhausted => exact List.append_nil _

/-! ### Exchanges -/

/-- The answers that a question takes. -/
def Takes (question : Question α) (usable : String → α → Prop) : Prop :=
  ∀ core answer, question.accept core = some answer ↔ usable core answer

theorem Tells.turn_of_accepted (tells : Tells line core)
    (accepted : question.accept core = some answer) :
    question.turn (some line) = .ends (.ok answer) := by
  obtain ⟨text, bytes, trims⟩ := tells
  rw [turn, Utf8.decode?_eq_some_iff.mpr bytes]
  dsimp only
  rw [Blank.trimmed_eq_iff.mpr trims, accepted]

theorem Tells.turn_of_refused (tells : Tells line core)
    (useless : question.accept core = none) :
    question.turn (some line) = .again (question.refusal core) := by
  obtain ⟨text, bytes, trims⟩ := tells
  rw [turn, Utf8.decode?_eq_some_iff.mpr bytes]
  dsimp only
  rw [Blank.trimmed_eq_iff.mpr trims, useless]

theorem turn_of_invalid (question : Question α)
    (invalid : ¬line.toByteArray.IsValidUTF8) :
    question.turn (some line) = .ends (.error .notText) := by
  rw [turn, Utf8.decode?_eq_none_iff.mpr invalid]

theorem exchange_of_ends {result : Except AnswerError α}
    (ends : question.turn (some line) = .ends result) (later : List (List UInt8)) :
    question.exchange (line :: later) =
      { result := result
        shown := 1
        notes := []
        unread := later } := by
  rw [exchange, ends]

theorem exchange_of_again {notes : List Note}
    (again : question.turn (some line) = .again notes) (later : List (List UInt8)) :
    question.exchange (line :: later) =
      { question.exchange later with
        shown := (question.exchange later).shown + 1
        notes := notes ++ (question.exchange later).notes } := by
  simp only [exchange, again]

/-- The lines that a question passes over only add to what it shows and notes. -/
theorem exchange_append (takes : question.Takes usable)
    (passed : ∀ earlier ∈ before, Passes usable earlier) (later : List (List UInt8)) :
    ∃ notes, question.exchange (before ++ later) =
      { question.exchange later with
        shown := before.length + (question.exchange later).shown
        notes := notes } := by
  induction before with
  | nil => exact ⟨_, by rw [List.length_nil, Nat.zero_add]; rfl⟩
  | cons line others inductionHypothesis =>
      obtain ⟨⟨core, tells, useless⟩, passed⟩ := List.forall_mem_cons.mp passed
      obtain ⟨notes, further⟩ := inductionHypothesis passed
      have none : question.accept core = none :=
        Option.eq_none_iff_forall_ne_some.mpr
          (fun answer taken => useless answer ((takes core answer).mp taken))
      have again := tells.turn_of_refused none
      refine ⟨question.refusal core ++ notes, ?_⟩
      rw [List.cons_append, exchange_of_again again]
      dsimp only
      rw [further, List.length_cons, Nat.add_right_comm]

/-- An exchange has the outcome of every scan. -/
theorem Scan.exchange_eq {scanned : Scanned α} (takes : question.Takes usable)
    (scan : Scan usable lines scanned) :
    ∃ notes, question.exchange lines =
      { result := scanned.result
        shown := scanned.shown
        notes := notes
        unread := scanned.unread } := by
  cases scan with
  | @answered before later line core answer passed tells accepted =>
      obtain ⟨notes, whole⟩ := exchange_append takes passed (line :: later)
      have ended := tells.turn_of_accepted ((takes core answer).mpr accepted)
      rw [exchange_of_ends ended] at whole
      exact ⟨notes, whole⟩
  | @garbled before later line passed invalid =>
      obtain ⟨notes, whole⟩ := exchange_append takes passed (line :: later)
      rw [exchange_of_ends (question.turn_of_invalid invalid)] at whole
      exact ⟨notes, whole⟩
  | exhausted passed =>
      obtain ⟨notes, whole⟩ := exchange_append takes passed []
      rw [List.append_nil] at whole
      exact ⟨notes, whole⟩

theorem Scan.unique {scanned other : Scanned α} (takes : question.Takes usable)
    (scan : Scan usable lines scanned) (again : Scan usable lines other) :
    other = scanned := by
  obtain ⟨notes, own⟩ := scan.exchange_eq takes
  obtain ⟨others, same⟩ := again.exchange_eq takes
  have joined := again.read_append_unread.trans scan.read_append_unread.symm
  cases scanned with
  | mk result read unread shown =>
  cases other with
  | mk otherResult otherRead otherUnread otherShown =>
  rw [own] at same
  cases same
  have read : otherRead = read := List.append_cancel_right joined
  rw [read]

end Question

/-! ### One question -/

namespace Session

open Question (Scan Scanned Takes)

variable {α : Type} {usable : String → α → Prop} {question : Question α}

/-- A question was put to a session whose input is divided into these lines: its
answer and what is left are those of the one scan of the lines, and the question
was shown as often as that takes. -/
structure Asked (usable : String → α → Prop) (prompt : String)
    (lines : List (List UInt8)) (scanned : Scanned α) (before : Session)
    (answer : Except AnswerError α) (after : Session) : Prop where
  divides : Lines.Divides before.input lines
  scan : ∀ other, Scan usable lines other ↔ other = scanned
  result : answer = scanned.result
  consumed : before.input = scanned.read.flatten ++ after.input
  left : Lines.Divides after.input scanned.unread
  shown : after.shown = before.shown ++ String.join (List.replicate scanned.shown prompt)
  files : after.files = before.files

theorem asked_ask (takes : question.Takes usable) {lines : List (List UInt8)}
    {session : Session} (divides : Lines.Divides session.input lines) :
    ∃ scanned, Asked usable question.text lines scanned session
      (session.ask question).1 (session.ask question).2 := by
  obtain ⟨scanned, scan⟩ := Question.exists_scan usable lines
  obtain ⟨notes, exchange⟩ := scan.exchange_eq takes
  rw [← divides.cut_eq] at exchange
  change question.exchangeOver session.input = _ at exchange
  have joined := scan.read_append_unread
  refine ⟨scanned, ?_⟩
  unfold ask
  rw [exchange]
  refine ⟨divides, ?_, rfl, ?_, ?_, rfl, rfl⟩
  · intro other
    constructor
    · exact scan.unique takes
    · rintro rfl
      exact scan
  · change session.input = scanned.read.flatten ++ scanned.unread.flatten
    rw [← List.flatten_append, joined, divides.flatten_eq]
  · rw [← joined] at divides
    exact divides.of_append

end Session

/-! ### Both questions -/

namespace Dialogue

/-- Any answer but the empty one is the name of a file. -/
def IsName (core name : String) : Prop :=
  core ≠ "" ∧ name = core

def IsChoice (core : String) (device : Device) : Prop :=
  Device.ofChoice? core = some device

theorem takes_inputName : inputName.Takes IsName := by
  intro core name
  change (if core.isEmpty then none else some core) = some name ↔ core ≠ "" ∧ name = core
  by_cases empty : core = ""
  · rw [if_pos (String.isEmpty_iff.mpr empty)]
    exact iff_of_false nofun (fun both => both.1 empty)
  · rw [if_neg (mt String.isEmpty_iff.mp empty), Option.some.injEq, and_iff_right empty]
    exact eq_comm

theorem takes_deviceMenu : deviceMenu.Takes IsChoice :=
  fun _ _ => Iff.rfl

/-- The name is asked for first with the one prompt, and only a name is followed by
the other.  The second question goes on with the lines that the first one left. -/
inductive AskedBoth (prompt menu : String) (lines : List (List UInt8)) (before : Session) :
    Except AnswerError (String × Device) → Session → Prop where
  | unnamed {scanned : Question.Scanned String} {error : AnswerError} {after : Session}
      (name : Session.Asked IsName prompt lines scanned before (.error error) after) :
      AskedBoth prompt menu lines before (.error error) after
  | unchosen {scanned : Question.Scanned String} {later : Question.Scanned Device}
      {name : String} {error : AnswerError} {between after : Session}
      (named : Session.Asked IsName prompt lines scanned before (.ok name) between)
      (choice : Session.Asked IsChoice menu scanned.unread later between
        (.error error) after) :
      AskedBoth prompt menu lines before (.error error) after
  | chosen {scanned : Question.Scanned String} {later : Question.Scanned Device}
      {name : String} {device : Device} {between after : Session}
      (named : Session.Asked IsName prompt lines scanned before (.ok name) between)
      (choice : Session.Asked IsChoice menu scanned.unread later between
        (.ok device) after) :
      AskedBoth prompt menu lines before (.ok (name, device)) after

theorem text_inputName : inputName.text = "Input HEX file name?\n" := rfl

/-- The catalogue, a device a line, between the two lines around it. -/
theorem text_deviceMenu :
    deviceMenu.text =
      "Select the PIC to program:\n" ++
        "1: PIC16F690\n2: PIC12F675\n3: PIC16F1847\n4: PIC16F1936\n" ++
        "Number?\n" := by
  rfl

end Dialogue

/-- The conversion that two answers ask for, with the other arguments. -/
def Arguments.conversionOf (arguments : Arguments) (name : String) (device : Device) :
    Conversion :=
  { input := name
    output := arguments.output.getD (FileName.outputFor name)
    loader := arguments.loader
    device := device }

namespace CommandLine

variable {α β : Type}

theorem run_attempt_ask_bind (question : Question α)
    (next : α → ExceptT ConversionError (StateM Session) β) (session : Session) :
    (Conversion.attempt .prompt (Host.ask question) >>= next).run.run session =
      match session.ask question with
      | (.ok answer, after) => (next answer).run.run after
      | (.error error, after) => (.error (.prompt error), after) := by
  have attempted : (Conversion.attempt .prompt (Host.ask question) :
      ExceptT ConversionError (StateM Session) α).run.run session =
        ((session.ask question).1.mapError .prompt, (session.ask question).2) := rfl
  rw [ExceptT.run_bind, StateT.run_bind, attempted]
  cases session.ask question with
  | mk result after => cases result <;> rfl

/-- How a run converts for a name and a device. -/
def converted (conversion : Conversion) (session : Session) :
    Except ConversionError Summary × Session :=
  (conversion.run : ExceptT ConversionError (StateM Session) Summary).run.run session

theorem ran_of_both_missing (arguments : Arguments) (session : Session) :
    ran { arguments with input := none, device := none } session =
      match session.ask Dialogue.inputName with
      | (.error error, after) => (.error (.prompt error), after)
      | (.ok name, between) =>
          match between.ask Dialogue.deviceMenu with
          | (.error error, after) => (.error (.prompt error), after)
          | (.ok device, after) => converted (arguments.conversionOf name device) after := by
  refine (run_attempt_ask_bind Dialogue.inputName _ session).trans ?_
  cases session.ask Dialogue.inputName with
  | mk result between =>
      cases result with
      | error error => rfl
      | ok name =>
          refine (run_attempt_ask_bind Dialogue.deviceMenu _ between).trans ?_
          dsimp only
          cases between.ask Dialogue.deviceMenu with
          | mk result after => cases result <;> rfl

end CommandLine

/-- Each question takes the first usable line and nothing after it, and a run that
asks both asks the second one over the lines that the first one left. -/
theorem prompts_take_first_usable_line (session : Session) (arguments : Arguments) :
    let lines := Lines.cut session.input
    let named := session.ask Dialogue.inputName
    let chosen := session.ask Dialogue.deviceMenu
    let prompt := "Input HEX file name?\n"
    let menu :=
      "Select the PIC to program:\n" ++
        "1: PIC16F690\n2: PIC12F675\n3: PIC16F1847\n4: PIC16F1936\n" ++
        "Number?\n"
    (∃ scanned, Session.Asked Dialogue.IsName prompt lines scanned session
        named.1 named.2) ∧
      (∃ scanned, Session.Asked Dialogue.IsChoice menu lines scanned session
        chosen.1 chosen.2) ∧
      ∃ result after, Dialogue.AskedBoth prompt menu lines session result after ∧
        CommandLine.ran { arguments with input := none, device := none } session =
          match result with
          | .error error => (.error (.prompt error), after)
          | .ok (name, device) =>
              CommandLine.converted (arguments.conversionOf name device) after := by
  intro lines named chosen prompt menu
  have divides := Lines.divides_cut session.input
  obtain ⟨scanned, name⟩ := Session.asked_ask Dialogue.takes_inputName divides
  obtain ⟨later, choice⟩ := Session.asked_ask Dialogue.takes_deviceMenu name.left
  obtain ⟨whole, alone⟩ := Session.asked_ask Dialogue.takes_deviceMenu divides
  rw [Dialogue.text_inputName] at name
  rw [Dialogue.text_deviceMenu] at choice alone
  refine ⟨⟨scanned, name⟩, ⟨whole, alone⟩, ?_⟩
  rw [CommandLine.ran_of_both_missing]
  cases first : session.ask Dialogue.inputName with
  | mk result between =>
      rw [first] at name choice
      cases result with
      | error error => exact ⟨.error error, between, .unnamed name, rfl⟩
      | ok own =>
          dsimp only
          cases second : between.ask Dialogue.deviceMenu with
          | mk result after =>
              rw [second] at choice
              cases result with
              | error error => exact ⟨.error error, after, .unchosen name choice, rfl⟩
              | ok device => exact ⟨.ok (own, device), after, .chosen name choice, rfl⟩

/-- The lines `0`, an empty one, `x` before a carriage return, and a name between
blanks that no line feed ends. -/
example :
    let exchange := Dialogue.deviceMenu.exchangeOver
      [48, 10, 10, 120, 13, 10, 9, 112, 73, 99, 49, 50, 102, 54, 55, 53, 32]
    exchange.result = .ok .pic12f675 ∧ exchange.shown = 4 ∧ exchange.rest = [] :=
  ⟨rfl, rfl, rfl⟩

end FlashScript
