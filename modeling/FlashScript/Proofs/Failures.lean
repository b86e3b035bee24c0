/-
Which errors a conversion can end in.  The errors of a sequence of steps are
those of its steps, so each step is looked at alone; what a session holds never
matters.
-/

import FlashScript.Conversion

namespace FlashScript.Conversion

variable {errors : ConversionError → Prop} {α β ε : Type}

/-- Every error of the action, in any session, is one of these. -/
def FailsOnlyWith (errors : ConversionError → Prop)
    (action : ExceptT ConversionError (StateM Session) α) : Prop :=
  ∀ (session : Session) (error : ConversionError),
    (action.run.run session).1 = .error error → errors error

/-- What comes of a conversion in a session. -/
def outcome (conversion : Conversion) (session : Session) :
    Except ConversionError Summary :=
  ((conversion.run : ExceptT ConversionError (StateM Session) Summary).run.run
    session).1

theorem failsOnlyWith_pure (value : α) :
    FailsOnlyWith errors (pure value) := by
  intro session error failed
  cases failed

theorem FailsOnlyWith.bind
    {action : ExceptT ConversionError (StateM Session) α}
    {next : α → ExceptT ConversionError (StateM Session) β}
    (first : FailsOnlyWith errors action)
    (later : ∀ value, FailsOnlyWith errors (next value)) :
    FailsOnlyWith errors (action >>= next) := by
  intro session error failed
  rw [ExceptT.run_bind, StateT.run_bind] at failed
  have source := first session
  cases came : action.run.run session with
  | mk outcome after =>
      rw [came] at failed source
      cases outcome with
      | error cause =>
          cases failed
          exact source error rfl
      | ok value => exact later value after error failed

theorem failsOnlyWith_say (note : Note) :
    FailsOnlyWith errors (say note) := by
  intro session error failed
  cases failed

theorem failsOnlyWith_forM {step : α → ExceptT ConversionError (StateM Session) Unit}
    (each : ∀ item, FailsOnlyWith errors (step item)) (items : List α) :
    FailsOnlyWith errors (items.forM step) := by
  induction items with
  | nil => exact failsOnlyWith_pure ()
  | cons item later inductionHypothesis =>
      exact (each item).bind (fun _ => inductionHypothesis)

/-- A step blames its own error and has no other. -/
theorem failsOnlyWith_attempt {blame : ε → ConversionError}
    {action : StateM Session (Except ε α)}
    (blamed : ∀ (session : Session) (cause : ε),
      (action.run session).1 = .error cause → errors (blame cause)) :
    FailsOnlyWith errors (attempt blame action) := by
  intro session error failed
  have causes := blamed session
  change ((action.run session).1).mapError blame = .error error at failed
  cases came : (action.run session).1 with
  | error cause =>
      rw [came] at failed
      cases failed
      exact causes cause came
  | ok value =>
      rw [came] at failed
      cases failed

/-- The compile error of a conversion is that of its lines. -/
theorem failsOnlyWith_compileLines (conversion : Conversion) (lines : List String)
    (blamed : ∀ diagnostic,
      (Compilation.start conversion.device).feedAll lines = .error diagnostic →
        errors (.compile diagnostic)) :
    FailsOnlyWith errors (conversion.compileLines lines) := by
  unfold compileLines
  refine (failsOnlyWith_forM failsOnlyWith_say _).bind (fun _ => ?_)
  refine (failsOnlyWith_attempt (fun _ => blamed)).bind (fun finished => ?_)
  refine (failsOnlyWith_say _).bind (fun _ => ?_)
  refine (failsOnlyWith_say _).bind (fun _ => ?_)
  exact failsOnlyWith_pure finished.script

theorem composeOn_error {loader : String} {script : Script} {template : List UInt8}
    {error : ConversionError}
    (failed : composeOn loader script template = .error error) :
    error = .templateUnavailable loader .empty ∨ ∃ cause, error = .image cause := by
  unfold composeOn at failed
  split at failed
  · cases failed
  · cases failed
    exact Or.inl rfl
  · cases failed
    exact Or.inr ⟨_, rfl⟩

theorem failsOnlyWith_composeImage (conversion : Conversion) (script : Script)
    (template : ∀ cause, errors (.templateUnavailable conversion.loader cause))
    (image : ∀ cause, errors (.image cause)) :
    FailsOnlyWith errors (conversion.composeImage script) := by
  unfold composeImage
  refine (failsOnlyWith_attempt (fun _ cause _ => template (.file cause))).bind
    (fun bytes => ?_)
  refine (failsOnlyWith_attempt (fun session cause failed => ?_)).bind
    (fun composed => ?_)
  · rcases composeOn_error failed with empty | ⟨reason, other⟩
    · rw [empty]
      exact template .empty
    · rw [other]
      exact image reason
  · refine (failsOnlyWith_forM (fun _ => failsOnlyWith_say _) _).bind (fun _ => ?_)
    exact failsOnlyWith_pure composed

/-- A conversion fails with the errors of its steps. -/
theorem failsOnlyWith_run (conversion : Conversion)
    (input : ∀ cause, errors (.inputUnavailable conversion.input cause))
    (compile : ∀ lines diagnostic,
      (Compilation.start conversion.device).feedAll lines = .error diagnostic →
        errors (.compile diagnostic))
    (template : ∀ cause, errors (.templateUnavailable conversion.loader cause))
    (image : ∀ cause, errors (.image cause))
    (output : ∀ cause, errors (.outputWrite conversion.output cause)) :
    FailsOnlyWith errors conversion.run := by
  unfold run
  refine (failsOnlyWith_say _).bind (fun _ => ?_)
  refine (failsOnlyWith_attempt (fun _ cause _ => input cause)).bind (fun bytes => ?_)
  refine (failsOnlyWith_compileLines conversion _ (compile _)).bind (fun script => ?_)
  refine (failsOnlyWith_say _).bind (fun _ => ?_)
  refine (failsOnlyWith_say _).bind (fun _ => ?_)
  refine (failsOnlyWith_composeImage conversion script template image).bind
    (fun composed => ?_)
  refine (failsOnlyWith_attempt (fun _ cause _ => output cause)).bind (fun _ => ?_)
  exact failsOnlyWith_pure _

end FlashScript.Conversion
