/-
Questions asked on the terminal.  A question is shown again until a line of the
input holds a usable answer; a line that is no text and the end of the input
are errors.  No more lines are read than that takes.
-/

import FlashScript.Device
import FlashScript.Journal
import FlashScript.Text.Lines
import FlashScript.Text.Utf8

namespace FlashScript

inductive AnswerError where
  | noAnswer
  | notText
  deriving DecidableEq

def AnswerError.message : AnswerError → String
  | .noAnswer => "no answer"
  | .notText => "stream did not contain valid UTF-8"

structure Question (α : Type) where
  text : String
  /-- What an answer without the blanks around it means, if it is usable. -/
  accept : String → Option α
  /-- What the journal says about an answer that is not. -/
  refusal : String → List Note

/-- What follows once a line of the input was read, or none was left.  Only after a
line is a question asked again. -/
inductive Turn (α : Type) : Option (List UInt8) → Type where
  | ends {line? : Option (List UInt8)} (result : Except AnswerError α) : Turn α line?
  | again {line : List UInt8} (notes : List Note) : Turn α (some line)

structure Exchange (α : Type) where
  result : Except AnswerError α
  /-- How many times the question was shown. -/
  shown : Nat
  notes : List Note
  /-- The lines that were not read. -/
  unread : List (List UInt8)

namespace Question

def turn {α : Type} (question : Question α) : (line? : Option (List UInt8)) → Turn α line?
  | none => .ends (.error .noAnswer)
  | some line =>
      match Utf8.decode? line with
      | none => .ends (.error .notText)
      | some text =>
          let answer := Blank.trimmed text
          match question.accept answer with
          | some usable => .ends (.ok usable)
          | none => .again (question.refusal answer)

def exchange {α : Type} (question : Question α) :
    List (List UInt8) → Exchange α
  | [] =>
      match question.turn none with
      | .ends result =>
          { result := result
            shown := 1
            notes := []
            unread := [] }
  | line :: later =>
      match question.turn (some line) with
      | .ends result =>
          { result := result
            shown := 1
            notes := []
            unread := later }
      | .again notes =>
          let further := question.exchange later
          { further with
            shown := further.shown + 1
            notes := notes ++ further.notes }

def exchangeOver {α : Type} (question : Question α) (input : List UInt8) :
    Exchange α :=
  question.exchange (Lines.cut input)

end Question

namespace Exchange

def shownText {α : Type} (exchange : Exchange α) (question : Question α) : String :=
  String.join (List.replicate exchange.shown question.text)

def rest {α : Type} (exchange : Exchange α) : List UInt8 :=
  exchange.unread.flatten

end Exchange

namespace Dialogue

/-- Asks for the firmware text; a blank answer is no name. -/
def inputName : Question String :=
  { text := "Input HEX file name?\n"
    accept := fun answer => if answer.isEmpty then none else some answer
    refusal := fun _ => [] }

def deviceMenu : Question Device :=
  { text :=
      "Select the PIC to program:\n" ++
        String.join (Device.catalogue.map (fun device => device.menuLine ++ "\n")) ++
        "Number?\n"
    accept := Device.ofChoice?
    refusal := fun answer =>
      [{ severity := .debug
         topic := .menu
         text := Device.unknownMessage answer }] }

end Dialogue

end FlashScript
