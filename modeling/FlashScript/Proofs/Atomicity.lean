/-
What a run leaves behind, step by step.  Of a session only the files and the
input that is still to be read decide how a run ends; what was shown and noted
never matters.  The one step that changes a file is the last one, so that a run
that ends early has changed none.
-/

import FlashScript.CommandLine
import FlashScript.Proofs.Composition
import FlashScript.Proofs.FileStore
import FlashScript.Proofs.Refusal
import FlashScript.Proofs.Simulation

namespace FlashScript

structure Holdings where
  files : FileStore
  input : List UInt8

def Session.holdings (session : Session) : Holdings :=
  { files := session.files
    input := session.input }

theorem Session.write_of_ok {session : Session} {path : String} {bytes : List UInt8}
    {place : Location} (found : session.files.destination path.toList = .ok place) :
    session.write path bytes =
      (.ok (), { session with files := session.files.put place (.file bytes) }) := by
  rw [Session.write, FileStore.write, found]
  rfl

theorem Session.write_of_error {session : Session} {path : String} {bytes : List UInt8}
    {error : FileError}
    (refused : session.files.destination path.toList = .error error) :
    session.write path bytes = (.error error, session) := by
  rw [Session.write, FileStore.write, refused]
  rfl

/-! ### How actions end -/

/-- In any session with these holdings the action has that outcome and leaves
those holdings. -/
def Ends {α : Type} (action : ExceptT ConversionError (StateM Session) α)
    (before : Holdings) (outcome : Except ConversionError α) (after : Holdings) : Prop :=
  ∀ session : Session, session.holdings = before →
    (action.run.run session).1 = outcome ∧ (action.run.run session).2.holdings = after

section Actions

variable {α β ε : Type} {before middle after : Holdings}

theorem ends_pure (value : α) : Ends (pure value) before (.ok value) before := by
  intro session held
  exact ⟨rfl, held⟩

theorem ends_say (note : Note) : Ends (Conversion.say note) before (.ok ()) before := by
  intro session held
  exact ⟨rfl, held⟩

theorem Ends.bind {action : ExceptT ConversionError (StateM Session) α}
    {next : α → ExceptT ConversionError (StateM Session) β}
    {value : α} {outcome : Except ConversionError β}
    (first : Ends action before (.ok value) middle)
    (later : Ends (next value) middle outcome after) :
    Ends (action >>= next) before outcome after := by
  intro session held
  obtain ⟨came, left⟩ := first session held
  rw [ExceptT.run_bind, StateT.run_bind]
  cases ran : action.run.run session with
  | mk result reached =>
      rw [ran] at came left
      cases came
      exact later reached left

theorem Ends.stop {action : ExceptT ConversionError (StateM Session) α}
    {next : α → ExceptT ConversionError (StateM Session) β} {error : ConversionError}
    (first : Ends action before (.error error) after) :
    Ends (action >>= next) before (.error error) after := by
  intro session held
  obtain ⟨came, left⟩ := first session held
  rw [ExceptT.run_bind, StateT.run_bind]
  cases ran : action.run.run session with
  | mk result reached =>
      rw [ran] at came left
      cases came
      exact ⟨rfl, left⟩

theorem ends_forM_say {item : Type} (note : item → Note) (items : List item) :
    Ends (items.forM (fun entry => Conversion.say (note entry))) before (.ok ())
      before := by
  induction items with
  | nil => exact ends_pure ()
  | cons entry later inductionHypothesis =>
      exact (ends_say (note entry)).bind inductionHypothesis

theorem ends_attempt_pure (blame : ε → ConversionError) {computed : Except ε α}
    {value : α} (same : computed = .ok value) :
    Ends (Conversion.attempt blame (pure computed)) before (.ok value) before := by
  intro session held
  exact ⟨congrArg (Except.mapError blame) same, held⟩

theorem ends_attempt_pure_of_error (blame : ε → ConversionError)
    {computed : Except ε α} {error : ε} (same : computed = .error error) :
    Ends (Conversion.attempt blame (pure computed)) before (.error (blame error))
      before := by
  intro session held
  exact ⟨congrArg (Except.mapError blame) same, held⟩

theorem ends_attempt_read (blame : FileError → ConversionError) {path : String}
    {bytes : List UInt8} (found : before.files.read path = .ok bytes) :
    Ends (Conversion.attempt blame (Host.read path)) before (.ok bytes) before := by
  intro session held
  cases held
  exact ⟨congrArg (Except.mapError blame) found, rfl⟩

theorem ends_attempt_read_of_error (blame : FileError → ConversionError)
    {path : String} {error : FileError}
    (unread : before.files.read path = .error error) :
    Ends (Conversion.attempt blame (Host.read path)) before (.error (blame error))
      before := by
  intro session held
  cases held
  exact ⟨congrArg (Except.mapError blame) unread, rfl⟩

theorem ends_attempt_ask (blame : AnswerError → ConversionError) {question : Question α}
    {result : Except AnswerError α} {rest : List UInt8}
    (answered : (question.exchangeOver before.input).result = result)
    (unread : (question.exchangeOver before.input).rest = rest) :
    Ends (Conversion.attempt blame (Host.ask question)) before (result.mapError blame)
      { before with input := rest } := by
  intro session held
  cases held
  cases answered
  cases unread
  exact ⟨rfl, rfl⟩

theorem ends_attempt_write (blame : FileError → ConversionError) {path : String}
    {bytes : List UInt8} {place : Location}
    (found : before.files.destination path.toList = .ok place) :
    Ends (Conversion.attempt blame (Host.write path bytes)) before (.ok ())
      { before with files := before.files.put place (.file bytes) } := by
  intro session held
  cases held
  change ((session.write path bytes).1).mapError blame = .ok () ∧
    (session.write path bytes).2.holdings = _
  rw [Session.write_of_ok found]
  exact ⟨rfl, rfl⟩

theorem ends_attempt_write_of_error (blame : FileError → ConversionError)
    {path : String} {bytes : List UInt8} {error : FileError}
    (refused : before.files.destination path.toList = .error error) :
    Ends (Conversion.attempt blame (Host.write path bytes)) before
      (.error (blame error)) before := by
  intro session held
  cases held
  change ((session.write path bytes).1).mapError blame = .error (blame error) ∧
    (session.write path bytes).2.holdings = _
  rw [Session.write_of_error refused]
  exact ⟨rfl, rfl⟩

end Actions

/-! ### The steps of a conversion -/

namespace Conversion

variable {files : FileStore} {before after : Holdings}
  {conversion : Conversion} {script : Script} {template : List UInt8} {place : Location}

theorem ends_compileLines {lines : List String}
    (compiled : Compilation.compile conversion.device lines = .ok script) :
    Ends (conversion.compileLines lines) before (.ok script) before := by
  obtain ⟨finished, accepted, rfl⟩ := Compilation.compile_ok compiled
  unfold compileLines
  refine (ends_forM_say _ _).bind ((ends_attempt_pure _ accepted).bind ?_)
  exact (ends_say _).bind ((ends_say _).bind (ends_pure _))

theorem ends_compileLines_of_error {lines : List String} {diagnostic : Diagnostic}
    (failed : Compilation.compile conversion.device lines = .error diagnostic) :
    Ends (conversion.compileLines lines) before (.error (.compile diagnostic))
      before := by
  have stopped := Compilation.compile_error failed
  unfold compileLines
  exact (ends_forM_say _ _).bind (ends_attempt_pure_of_error _ stopped).stop

/-- The loader with the script behind it. -/
def imageOf (script : Script) (template : List UInt8) : List UInt8 :=
  template ++ (Image.scriptSegment script).toBytes

theorem ends_composeImage (loaded : before.files.read conversion.loader = .ok template)
    (filled : template ≠ []) (within : script.size ≤ Script.capacity) :
    Ends (conversion.composeImage script) before (.ok (imageOf script template))
      before := by
  have image : composeOn conversion.loader script template =
      .ok (imageOf script template) := by
    rw [composeOn, Image.compose_of_ne_nil within filled]
    rfl
  unfold composeImage
  refine (ends_attempt_read _ loaded).bind ((ends_attempt_pure _ image).bind ?_)
  exact (ends_forM_say _ _).bind (ends_pure _)

theorem ends_composeImage_of_error {error : FileError}
    (unread : before.files.read conversion.loader = .error error) :
    Ends (conversion.composeImage script) before
      (.error (.templateUnavailable conversion.loader (.file error))) before := by
  unfold composeImage
  exact (ends_attempt_read_of_error _ unread).stop

theorem ends_composeImage_of_nil (loaded : before.files.read conversion.loader = .ok []) :
    Ends (conversion.composeImage script) before
      (.error (.templateUnavailable conversion.loader .empty)) before := by
  have empty : composeOn conversion.loader script [] =
      .error (.templateUnavailable conversion.loader .empty) := rfl
  unfold composeImage
  exact (ends_attempt_read _ loaded).bind (ends_attempt_pure_of_error id empty).stop

/-! ### Whole conversions -/

/-- The script is that of the input as it is among these files. -/
def Compiles (files : FileStore) (conversion : Conversion) (script : Script) : Prop :=
  ∃ bytes, files.read conversion.input = .ok bytes ∧
    Compilation.compile conversion.device (linesOf bytes) = .ok script

/-- Nothing is in the way of the conversion. -/
structure Ready (files : FileStore) (conversion : Conversion) (script : Script)
    (template : List UInt8) (place : Location) : Prop where
  compiles : Compiles files conversion script
  loaded : files.read conversion.loader = .ok template
  filled : template ≠ []
  writable : files.Takes conversion.output.toList place

/-- What is in the way of the conversion first. -/
inductive Blocked (files : FileStore) (conversion : Conversion) :
    ConversionError → Prop where
  | input {error : FileError} (unread : files.read conversion.input = .error error) :
      Blocked files conversion (.inputUnavailable conversion.input error)
  | text {bytes : List UInt8} {diagnostic : Diagnostic}
      (read : files.read conversion.input = .ok bytes)
      (faulty : Compilation.compile conversion.device (linesOf bytes) =
        .error diagnostic) :
      Blocked files conversion (.compile diagnostic)
  | loader {script : Script} {error : FileError}
      (compiles : Compiles files conversion script)
      (unread : files.read conversion.loader = .error error) :
      Blocked files conversion (.templateUnavailable conversion.loader (.file error))
  | emptyLoader {script : Script} (compiles : Compiles files conversion script)
      (loaded : files.read conversion.loader = .ok []) :
      Blocked files conversion (.templateUnavailable conversion.loader .empty)
  | output {script : Script} {template : List UInt8} {error : FileError}
      (compiles : Compiles files conversion script)
      (loaded : files.read conversion.loader = .ok template) (filled : template ≠ [])
      (unwritable : files.destination conversion.output.toList = .error error) :
      Blocked files conversion (.outputWrite conversion.output error)

theorem ready_or_blocked (conversion : Conversion) (files : FileStore) :
    (∃ script template place, Ready files conversion script template place) ∨
      ∃ error, Blocked files conversion error := by
  cases read : files.read conversion.input with
  | error error => exact Or.inr ⟨_, .input read⟩
  | ok bytes =>
  cases compiled : Compilation.compile conversion.device (linesOf bytes) with
  | error diagnostic => exact Or.inr ⟨_, .text read compiled⟩
  | ok script =>
  have compiles : Compiles files conversion script := ⟨bytes, read, compiled⟩
  cases loaded : files.read conversion.loader with
  | error error => exact Or.inr ⟨_, .loader compiles loaded⟩
  | ok template =>
  by_cases filled : template = []
  · cases filled
    exact Or.inr ⟨_, .emptyLoader compiles loaded⟩
  cases writable : files.destination conversion.output.toList with
  | error error => exact Or.inr ⟨_, .output compiles loaded filled writable⟩
  | ok place =>
      exact Or.inl ⟨script, template, place,
        { compiles := compiles
          loaded := loaded
          filled := filled
          writable := FileStore.destination_eq_ok_iff.mp writable }⟩

theorem Compiles.fits (compiles : Compiles files conversion script) :
    script.size ≤ Script.capacity := by
  obtain ⟨bytes, _, compiled⟩ := compiles
  exact Compilation.compile_fits compiled

/-- What is left of a conversion that has its script. -/
def finish (conversion : Conversion) (script : Script) :
    ExceptT ConversionError (StateM Session) Summary := do
  let image ← conversion.composeImage script
  attempt (.outputWrite conversion.output) (Host.write conversion.output image)
  return Summary.ofScript script

theorem Compiles.ends {outcome : Except ConversionError Summary}
    (compiles : Compiles before.files conversion script)
    (finished : Ends (conversion.finish script) before outcome after) :
    Ends conversion.run before outcome after := by
  obtain ⟨bytes, found, compiled⟩ := compiles
  unfold run
  refine (ends_say _).bind ((ends_attempt_read _ found).bind ?_)
  refine (ends_compileLines compiled).bind ?_
  exact (ends_say _).bind ((ends_say _).bind finished)

theorem Ready.ends (before : Holdings)
    (ready : Ready before.files conversion script template place) :
    Ends conversion.run before (.ok (Summary.ofScript script))
      { before with
        files := before.files.put place (.file (imageOf script template)) } := by
  apply ready.compiles.ends
  have composed := ends_composeImage ready.loaded ready.filled ready.compiles.fits
  have found := FileStore.destination_eq_ok_iff.mpr ready.writable
  exact composed.bind ((ends_attempt_write _ found).bind (ends_pure _))

theorem Blocked.ends {error : ConversionError} (before : Holdings)
    (blocked : Blocked before.files conversion error) :
    Ends conversion.run before (.error error) before := by
  cases blocked with
  | input unread =>
      unfold run
      exact (ends_say _).bind (ends_attempt_read_of_error _ unread).stop
  | text found faulty =>
      have read := ends_attempt_read (.inputUnavailable conversion.input) found
      unfold run
      exact (ends_say _).bind (read.bind (ends_compileLines_of_error faulty).stop)
  | loader compiles unread =>
      exact compiles.ends (ends_composeImage_of_error unread).stop
  | emptyLoader compiles loaded =>
      exact compiles.ends (ends_composeImage_of_nil loaded).stop
  | output compiles loaded filled unwritable =>
      have composed := ends_composeImage loaded filled compiles.fits
      exact compiles.ends
        (composed.bind (ends_attempt_write_of_error _ unwritable).stop)

end Conversion

/-! ### Whole runs -/

namespace CommandLine

variable {arguments : Arguments} {before after : Holdings} {conversion : Conversion}

/-- What was given, or what a question is answered with, and the input after it. -/
def answered {α : Type} (given : Option α) (question : Question α)
    (input : List UInt8) : Except AnswerError α × List UInt8 :=
  match given with
  | some value => (.ok value, input)
  | none =>
      ((question.exchangeOver input).result, (question.exchangeOver input).rest)

/-- The conversion that the arguments and the answers ask for. -/
def request (arguments : Arguments) (input : List UInt8) : Except AnswerError Conversion :=
  match answered arguments.input Dialogue.inputName input with
  | (.error error, _) => .error error
  | (.ok name, rest) =>
      match (answered arguments.device Dialogue.deviceMenu rest).1 with
      | .error error => .error error
      | .ok device =>
          .ok
            { input := name
              output := arguments.output.getD (FileName.outputFor name)
              loader := arguments.loader
              device := device }

/-- The output is the given one, or has the name of the input with another
extension. -/
theorem output_of_request {input : List UInt8}
    (asked : request arguments input = .ok conversion) :
    match arguments.output with
    | some output => conversion.output = output
    | none => FileName.Renamed "COM".toList conversion.input.toList
        conversion.output.toList := by
  unfold request at asked
  split at asked
  · cases asked
  split at asked
  · cases asked
  cases asked
  cases arguments.output with
  | some output => rfl
  | none => exact FileName.renamed_outputFor _

/-- What ends a run early. -/
inductive Stops (arguments : Arguments) (files : FileStore) (input : List UInt8) :
    ConversionError → Prop where
  | prompt {error : AnswerError} (unanswered : request arguments input = .error error) :
      Stops arguments files input (.prompt error)
  | conversion {conversion : Conversion} {error : ConversionError}
      (asked : request arguments input = .ok conversion)
      (blocked : conversion.Blocked files error) :
      Stops arguments files input error

theorem ends_givenOr {α : Type} (given : Option α) (question : Question α)
    (before : Holdings) :
    Ends (givenOr given question) before
      ((answered given question before.input).1.mapError .prompt)
      { before with input := (answered given question before.input).2 } := by
  cases given with
  | some value => exact ends_pure value
  | none => exact ends_attempt_ask .prompt rfl rfl

/-- The questions alone. -/
def choose (arguments : Arguments) : ExceptT ConversionError (StateM Session) Conversion := do
  let input ← givenOr arguments.input Dialogue.inputName
  let device ← givenOr arguments.device Dialogue.deviceMenu
  return {
    input := input
    output := arguments.output.getD (FileName.outputFor input)
    loader := arguments.loader
    device := device }

theorem convert_eq_choose_bind (arguments : Arguments) :
    convert arguments = choose arguments >>= Conversion.run := by
  unfold convert choose
  simp only [bind_assoc, pure_bind]

theorem ends_choose (arguments : Arguments) (before : Holdings) :
    ∃ rest, Ends (choose arguments) before
      ((request arguments before.input).mapError .prompt)
      { before with input := rest } := by
  have named := ends_givenOr arguments.input Dialogue.inputName before
  unfold choose request
  cases first : answered arguments.input Dialogue.inputName before.input with
  | mk result rest =>
  rw [first] at named
  cases result with
  | error cause => exact ⟨rest, named.stop⟩
  | ok name =>
  have chosen := ends_givenOr arguments.device Dialogue.deviceMenu
    { before with input := rest }
  dsimp only at chosen ⊢
  cases second : answered arguments.device Dialogue.deviceMenu rest with
  | mk result later =>
  rw [second] at chosen
  cases result with
  | error cause => exact ⟨later, named.bind chosen.stop⟩
  | ok device => exact ⟨later, named.bind (chosen.bind (ends_pure _))⟩

theorem Stops.ends {error : ConversionError} (before : Holdings)
    (stops : Stops arguments before.files before.input error) :
    ∃ rest, Ends (convert arguments) before (.error error)
      { before with input := rest } := by
  obtain ⟨rest, chosen⟩ := ends_choose arguments before
  rw [convert_eq_choose_bind]
  cases stops with
  | prompt unanswered =>
      rw [unanswered] at chosen
      exact ⟨rest, chosen.stop⟩
  | conversion asked blocked =>
      rw [asked] at chosen
      exact ⟨rest, chosen.bind (blocked.ends { before with input := rest })⟩

theorem ends_convert {script : Script} {template : List UInt8} {place : Location}
    (before : Holdings) (asked : request arguments before.input = .ok conversion)
    (ready : conversion.Ready before.files script template place) :
    ∃ rest, Ends (convert arguments) before (.ok (Summary.ofScript script))
      { files := before.files.put place
          (.file (Conversion.imageOf script template))
        input := rest } := by
  obtain ⟨rest, chosen⟩ := ends_choose arguments before
  rw [asked] at chosen
  rw [convert_eq_choose_bind]
  exact ⟨rest, chosen.bind (ready.ends { before with input := rest })⟩

/-- What comes of the conversion that a session is asked for. -/
def ran (arguments : Arguments) (session : Session) :
    Except ConversionError Summary × Session :=
  (convert arguments : ExceptT ConversionError (StateM Session) Summary).run.run session

/-- The exit status of the program, and the session after it. -/
def exited (arguments : Arguments) (session : Session) : Nat × Session :=
  (execute arguments : StateM Session Nat).run session

theorem exited_eq {session reached : Session} {outcome : Except ConversionError Summary}
    (came : ran arguments (session.note (programNote .debug arguments.describe)) =
      (outcome, reached)) :
    exited arguments session =
      match outcome with
      | .ok _ => (0, reached.note (programNote .info "Ok."))
      | .error error =>
          (failureStatus, reached.note (programNote .error error.message)) := by
  unfold exited execute
  rw [StateT.run_bind]
  change StateT.run (_ >>= _) (session.note (programNote .debug arguments.describe)) = _
  rw [StateT.run_bind]
  unfold ran at came
  rw [came]
  cases outcome with
  | ok summary => rfl
  | error error => rfl

theorem ready_or_stops (arguments : Arguments) (files : FileStore) (input : List UInt8) :
    (∃ conversion script template place, request arguments input = .ok conversion ∧
      conversion.Ready files script template place) ∨
      ∃ error, Stops arguments files input error := by
  cases asked : request arguments input with
  | error error => exact Or.inr ⟨_, .prompt asked⟩
  | ok conversion =>
      rcases conversion.ready_or_blocked files with
        ⟨script, template, place, ready⟩ | ⟨error, blocked⟩
      · exact Or.inl ⟨conversion, script, template, place, rfl, ready⟩
      · exact Or.inr ⟨error, .conversion asked blocked⟩

theorem exists_ends (arguments : Arguments) (before : Holdings) :
    ∃ outcome after, Ends (convert arguments) before outcome after := by
  rcases ready_or_stops arguments before.files before.input with
    ⟨conversion, script, template, place, asked, ready⟩ | ⟨error, stops⟩
  · obtain ⟨rest, ends⟩ := ends_convert before asked ready
    exact ⟨_, _, ends⟩
  · obtain ⟨rest, ends⟩ := stops.ends before
    exact ⟨_, _, ends⟩

section Outcome

variable {session : Session} {script : Script} {template : List UInt8} {place : Location}
  {error : ConversionError}

theorem Stops.ran (stops : Stops arguments session.files session.input error) :
    (ran arguments session).1 = .error error ∧
      (ran arguments session).2.files = session.files := by
  obtain ⟨rest, ends⟩ := stops.ends session.holdings
  obtain ⟨came, left⟩ := ends session rfl
  exact ⟨came, congrArg Holdings.files left⟩

theorem ran_of_ready (asked : request arguments session.input = .ok conversion)
    (ready : conversion.Ready session.files script template place) :
    (ran arguments session).1 = .ok (Summary.ofScript script) ∧
      (ran arguments session).2.files =
        session.files.put place (.file (Conversion.imageOf script template)) := by
  obtain ⟨rest, ends⟩ := ends_convert session.holdings asked ready
  obtain ⟨came, left⟩ := ends session rfl
  exact ⟨came, congrArg Holdings.files left⟩

theorem ran_error_iff :
    (ran arguments session).1 = .error error ↔
      Stops arguments session.files session.input error := by
  constructor
  · intro failed
    rcases ready_or_stops arguments session.files session.input with
      ⟨conversion, script, template, place, asked, ready⟩ | ⟨cause, stops⟩
    · rw [(ran_of_ready asked ready).1] at failed
      cases failed
    · rw [stops.ran.1] at failed
      cases failed
      exact stops
  · intro stops
    exact stops.ran.1

theorem ran_ok_iff :
    (∃ summary, (ran arguments session).1 = .ok summary) ↔
      ∃ conversion script template place,
        request arguments session.input = .ok conversion ∧
          conversion.Ready session.files script template place := by
  constructor
  · rintro ⟨summary, finished⟩
    rcases ready_or_stops arguments session.files session.input with
      able | ⟨cause, stops⟩
    · exact able
    · rw [stops.ran.1] at finished
      cases finished
  · rintro ⟨conversion, script, template, place, asked, ready⟩
    exact ⟨_, (ran_of_ready asked ready).1⟩

/-- The two notes of the program around a run change neither its outcome nor the
files. -/
theorem exited_ran (arguments : Arguments) (session : Session) :
    ((exited arguments session).1 = 0 ↔
        ∃ summary, (ran arguments session).1 = .ok summary) ∧
      (exited arguments session).2.files = (ran arguments session).2.files := by
  obtain ⟨outcome, after, ends⟩ := exists_ends arguments session.holdings
  obtain ⟨came, left⟩ := ends session rfl
  obtain ⟨noted, held⟩ :=
    ends (session.note (programNote .debug arguments.describe)) rfl
  have same : (ran arguments session).1 = outcome := came
  have stored : (ran arguments session).2.files = after.files :=
    congrArg Holdings.files left
  rw [exited_eq (Prod.ext noted rfl), same, stored]
  cases outcome with
  | ok summary =>
      exact ⟨⟨fun _ => ⟨summary, rfl⟩, fun _ => rfl⟩, congrArg Holdings.files held⟩
  | error error => exact ⟨⟨nofun, nofun⟩, congrArg Holdings.files held⟩

end Outcome

end CommandLine

/-- A run writes one file or none.  It fails with the first thing that is in its
way and then leaves every file as it was; with nothing in its way the file that
the output names holds the loader with the script behind it, both as they were
before the run, and every other file is left as it was. -/
theorem conversion_is_all_or_nothing (arguments : Arguments) (session : Session) :
    let run := CommandLine.ran arguments session
    let exit := CommandLine.exited arguments session
    (∀ error, run.1 = .error error ↔
        CommandLine.Stops arguments session.files session.input error) ∧
      (∀ error, run.1 = .error error → run.2.files = session.files) ∧
      ((∃ summary, run.1 = .ok summary) ↔
        ∃ conversion script template place,
          CommandLine.request arguments session.input = .ok conversion ∧
            conversion.Ready session.files script template place) ∧
      (∀ conversion, CommandLine.request arguments session.input = .ok conversion →
        match arguments.output with
        | some output => conversion.output = output
        | none => FileName.Renamed "COM".toList conversion.input.toList
            conversion.output.toList) ∧
      (∀ conversion script template place,
        CommandLine.request arguments session.input = .ok conversion →
        conversion.Ready session.files script template place →
          ∃ segment, Image.scriptSegment? script = some segment ∧
            run.1 = .ok (Summary.ofScript script) ∧
            run.2.files.Names conversion.output place ∧
            run.2.files.read conversion.output = .ok (template ++ segment.toBytes) ∧
            session.files.Replaced run.2.files place (template ++ segment.toBytes)) ∧
      (exit.1 = 0 ↔ ∃ summary, run.1 = .ok summary) ∧
      exit.2.files = run.2.files := by
  intro run exit
  obtain ⟨status, left⟩ := CommandLine.exited_ran arguments session
  refine ⟨fun error => CommandLine.ran_error_iff, ?_, CommandLine.ran_ok_iff,
    fun conversion => CommandLine.output_of_request, ?_, status, left⟩
  · intro error failed
    exact (CommandLine.ran_error_iff.mp failed).ran.2
  · intro conversion script template place asked ready
    obtain ⟨finished, files⟩ := CommandLine.ran_of_ready asked ready
    have changed : run.2.files =
        session.files.put place (.file (Conversion.imageOf script template)) := files
    have named := ready.writable.names_put (Conversion.imageOf script template)
    have replaced := FileStore.replaced_put ready.writable.free
      (Conversion.imageOf script template)
    refine ⟨Image.scriptSegment script,
      Image.scriptSegment?_of_size_le ready.compiles.fits, finished, ?_⟩
    rw [changed]
    exact ⟨named, replaced.reads _ named, replaced⟩

/-- The output is not given and gets the name of the loader, which is read before it
is written; every path to it reads the image then.  Without the loader the same call
fails and creates nothing in its place. -/
theorem conversion_is_all_or_nothing_onto_the_loader :
    let directory := Location.root.enter ['d']
    let firmware := directory.enter ['a', '.', 'h', 'e', 'x']
    let loader := directory.enter ['a', '.', 'C', 'O', 'M']
    let record : Node :=
      .file [0x3A, 0x30, 0x32, 0x30, 0x30, 0x30, 0x30, 0x30, 0x30, 0x41, 0x41, 0x42, 0x42,
        0x39, 0x39, 0x0A]
    let arguments : Arguments :=
      { input := none
        output := none
        device := none
        loader := "/d/a.COM"
        verbose := false }
    let answers := [0x61, 0x2E, 0x68, 0x65, 0x78, 0x0A, 0x31, 0x0A]
    let image :=
      [0xFF, 0x00, 0x2C, 0x06, 0x2C, 0x00, 0x14, 0x07, 0x2C, 0x01, 0xAA, 0xBB]
    let whole := Session.start
      { workingDirectory := directory
        entries := [(loader, .file [0xFF]), (firmware, record)] } answers
    let lacking := Session.start
      { workingDirectory := directory
        entries := [(firmware, record)] } answers
    (∀ path ∈ ["a.COM", "/d/a.COM", "./../d//a.COM"],
        (CommandLine.ran arguments whole).2.files.read path = .ok image) ∧
      (CommandLine.ran arguments whole).2.files.node? firmware = some record ∧
      (CommandLine.exited arguments whole).1 = 0 ∧
      (CommandLine.ran arguments lacking).1 =
        .error (.templateUnavailable "/d/a.COM" (.file .notFound)) ∧
      (CommandLine.ran arguments lacking).2.files = lacking.files := by
  intro directory firmware loader record arguments answers image whole lacking
  let conversion : Conversion :=
    { input := "a.hex"
      output := "a.COM"
      loader := "/d/a.COM"
      device := .pic16f690 }
  let script : Script :=
    { deviceId := 0x1400
      scriptEnd := 0
      opcodes := #[0x01, 0xAA, 0xBB] }
  have asked : CommandLine.request arguments answers = .ok conversion := rfl
  obtain ⟨_, _, _, _, writes, status, _⟩ := conversion_is_all_or_nothing arguments whole
  obtain ⟨stops, keeps, _⟩ := conversion_is_all_or_nothing arguments lacking
  have compiled : Compilation.compile .pic16f690 (Conversion.linesOf [0x3A, 0x30, 0x32, 0x30, 0x30,
      0x30, 0x30, 0x30, 0x30, 0x41, 0x41, 0x42, 0x42, 0x39, 0x39, 0x0A]) = .ok script := by
    decide +kernel
  have ready : conversion.Ready whole.files script [0xFF] loader := by
    dsimp only [conversion, whole, loader, firmware, directory, record]
    exact
      { compiles := ⟨_, rfl, compiled⟩
        loaded := rfl
        filled := List.cons_ne_nil 0xFF []
        writable := FileStore.destination_eq_ok_iff.mp rfl }
  obtain ⟨segment, segmented, finished, _, _, replaced⟩ :=
    writes conversion script [0xFF] loader asked ready
  have data : segment.toBytes =
      [0x00, 0x2C, 0x06, 0x2C, 0x00, 0x14, 0x07, 0x2C, 0x01, 0xAA, 0xBB] := by
    cases segmented
    dsimp only [script]
    rfl
  rw [data] at replaced
  have blocked : conversion.Blocked lacking.files
      (.templateUnavailable "/d/a.COM" (.file .notFound)) := by
    dsimp only [conversion, lacking, firmware, directory, record]
    exact .loader ⟨_, rfl, compiled⟩ rfl
  have failed := (stops _).mpr (.conversion asked blocked)
  refine ⟨?_, replaced.others firmware (by decide), status.mpr ⟨_, finished⟩, failed,
    keeps _ failed⟩
  have named : ∀ path ∈ ["a.COM", "/d/a.COM", "./../d//a.COM"],
      whole.files.Names path loader := by
    simp only [List.forall_mem_cons]
    exact ⟨⟨rfl, rfl⟩, ⟨rfl, rfl⟩, ⟨rfl, rfl⟩, nofun⟩
  intro path member
  exact replaced.reads path (replaced.leads path loader (named path member))

end FlashScript
