/-
The program as it is called: the arguments are read, what they leave open is
asked for, and the conversion is run.  The exit status is zero for a finished
conversion, one for an error and two for arguments that are not understood.
-/

import FlashScript.Arguments
import FlashScript.Conversion
import FlashScript.Journal.Filter

namespace FlashScript

namespace CommandLine

def helpText : String :=
  "Turns a PIC firmware HEX file into a self-programming loader executable\n\n" ++
    "Usage: picprog [OPTIONS] [INPUT] [OUTPUT]\n\n" ++
    "Options:\n" ++
    "  -d, --device <DEVICE>  Target device by menu number or name\n" ++
    "  -l, --loader <LOADER>  Loader the script is appended to [default: " ++
    Arguments.defaultLoader ++ "]\n" ++
    "  -v, --verbose          Log per-pass details\n" ++
    "  -h, --help             Print help\n" ++
    "  -V, --version          Print version\n"

def versionText : String :=
  "picprog 0.1.0\n"

/-- Directives given from outside come before the choice of the arguments. -/
def filter (directives : Option String) (arguments : Arguments) : WrittenFilter :=
  JournalFilter.read
    (directives.getD (if arguments.verbose then "debug" else "info"))

def failureStatus : Nat := 1

def usageStatus : Nat := 2

section Run

variable {m : Type → Type} [Monad m] [Host m]

/-- A value that was given, or else the answer to a question. -/
def givenOr {α : Type} (given : Option α) (question : Question α) :
    ExceptT ConversionError m α :=
  match given with
  | some value => pure value
  | none => Conversion.attempt .prompt (Host.ask question)

/-- The input is asked for before the device. -/
def convert (arguments : Arguments) : ExceptT ConversionError m Summary := do
  let input ← givenOr arguments.input Dialogue.inputName
  let output := arguments.output.getD (FileName.outputFor input)
  let device ← givenOr arguments.device Dialogue.deviceMenu
  Conversion.run
    { input := input
      output := output
      loader := arguments.loader
      device := device }

def programNote (severity : Severity) (text : String) : Note :=
  { severity := severity
    topic := .program
    text := text }

def execute (arguments : Arguments) : m Nat := do
  Host.note (programNote .debug arguments.describe)
  match ← (convert arguments).run with
  | .ok _ =>
      Host.note (programNote .info "Ok.")
      return 0
  | .error error =>
      Host.note (programNote .error error.message)
      return failureStatus

end Run

/-! ### A whole call as a value -/

structure Outcome where
  status : Nat
  shown : String
  reported : String
  files : FileStore

def refusalText (error : UsageError) : String :=
  "error: " ++ error.message ++ "\n"

/-- The program called with arguments on a machine that holds files and an
input; `directives` filter the journal. -/
def call (arguments : List String) (directives : Option String)
    (files : FileStore) (input : List UInt8) : Outcome :=
  match Arguments.read arguments with
  | .ok arguments =>
      let (status, session) :=
        (execute arguments : StateM Session Nat).run (Session.start files input)
      let written := filter directives arguments
      { status := status
        shown := session.shown
        reported :=
          written.report ++ written.filter.render session.notes.toList
        files := session.files }
  | .error .help =>
      { status := 0, shown := helpText, reported := "", files := files }
  | .error .version =>
      { status := 0, shown := versionText, reported := "", files := files }
  | .error (.refused error) =>
      { status := usageStatus
        shown := ""
        reported := refusalText error
        files := files }

end CommandLine

end FlashScript
