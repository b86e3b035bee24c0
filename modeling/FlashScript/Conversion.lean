/-
Converting a firmware file: its lines are compiled, the script is composed with
a loader template, and the image is written.  Every step that can fail comes
before the write, so a run that fails writes nothing.
-/

import FlashScript.Host
import FlashScript.Narration

namespace FlashScript

inductive TemplateError where
  | file (error : FileError)
  | empty
  deriving DecidableEq

def TemplateError.message : TemplateError → String
  | .file error => error.message
  | .empty => ImageError.emptyTemplate.message

inductive ConversionError where
  | inputUnavailable (path : String) (error : FileError)
  | compile (diagnostic : Diagnostic)
  | templateUnavailable (path : String) (error : TemplateError)
  | image (error : ImageError)
  | outputWrite (path : String) (error : FileError)
  | prompt (error : AnswerError)
  deriving DecidableEq

def ConversionError.message : ConversionError → String
  | .inputUnavailable path error =>
      "error reading input file " ++ path ++ ": " ++ error.message
  | .compile diagnostic => diagnostic.message
  | .templateUnavailable path error =>
      "error: open input '" ++ path ++ "': " ++ error.message
  | .image error => error.message
  | .outputWrite path error =>
      "error: write output file " ++ path ++ ": " ++ error.message
  | .prompt error => "error reading answer: " ++ error.message

/-- A firmware file to convert, and what takes part in it. -/
structure Conversion where
  input : String
  output : String
  loader : String
  device : Device
  deriving DecidableEq

namespace Conversion

/-- The lines of a firmware file as text. -/
def linesOf (bytes : List UInt8) : List String :=
  (Lines.contents bytes).map Utf8.decodeLossy

/-- The image of a script on a template, where an empty template is blamed on
the template file. -/
def composeOn (loader : String) (script : Script) (template : List UInt8) :
    Except ConversionError (List UInt8) :=
  match Image.compose script template with
  | .ok image => .ok image
  | .error .emptyTemplate => .error (.templateUnavailable loader .empty)
  | .error error => .error (.image error)

/-! ### What the journal says -/

def beginning (conversion : Conversion) : Note :=
  { severity := .info
    topic := .conversion
    text := "compiling " ++ conversion.input ++ " for " ++ conversion.device.name }

def linesRead (conversion : Conversion) (finished : Compilation) : Note :=
  { severity := .debug
    topic := .conversion
    text := s!"{finished.lines} lines read from " ++ conversion.input }

def writing (conversion : Conversion) : Note :=
  { severity := .info
    topic := .conversion
    text := "writing the output programming COM " ++ conversion.output }

/-! ### The steps -/

variable {m : Type → Type} [Monad m] [Host m]

def say (note : Note) : ExceptT ConversionError m Unit :=
  ExceptT.lift (Host.note note)

def attempt {ε α : Type} (blame : ε → ConversionError)
    (action : m (Except ε α)) : ExceptT ConversionError m α :=
  ExceptT.mk ((fun outcome => outcome.mapError blame) <$> action)

/-- The notes on the lines come before the error of the last one. -/
def compileLines (conversion : Conversion) (lines : List String) :
    ExceptT ConversionError m Script := do
  let start := Compilation.start conversion.device
  (Narration.ofLines start lines).forM say
  let finished ← attempt .compile (pure (start.feedAll lines))
  say (conversion.linesRead finished)
  say (Narration.ofPass finished)
  return finished.script

def composeImage (conversion : Conversion) (script : Script) :
    ExceptT ConversionError m (List UInt8) := do
  let template ← attempt
    (fun error => .templateUnavailable conversion.loader (.file error))
    (Host.read conversion.loader)
  let image ← attempt id (pure (composeOn conversion.loader script template))
  (Image.scriptSegment? script).toList.forM
    (fun segment => say (Narration.ofScriptSegment segment))
  return image

def run (conversion : Conversion) : ExceptT ConversionError m Summary := do
  say conversion.beginning
  let bytes ← attempt (.inputUnavailable conversion.input)
    (Host.read conversion.input)
  let script ← conversion.compileLines (linesOf bytes)
  let summary := Summary.ofScript script
  say (Narration.ofSummary summary)
  say conversion.writing
  let image ← conversion.composeImage script
  attempt (.outputWrite conversion.output) (Host.write conversion.output image)
  return summary

end Conversion

end FlashScript
