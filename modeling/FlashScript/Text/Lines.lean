/-
Lines of a byte text.  A line ends with a line feed that belongs to it; what
follows the last line feed is a line too unless it is empty.
-/

namespace FlashScript.Lines

def lineFeed : UInt8 := 0x0A

def carriageReturn : UInt8 := 0x0D

/-- The lines with the line feeds that end them; joined again they are the text. -/
def cut (bytes : List UInt8) : List (List UInt8) :=
  bytes.foldr
    (fun byte lines =>
      if byte = lineFeed then [byte] :: lines
      else
        match lines with
        | [] => [[byte]]
        | line :: later => (byte :: line) :: later)
    []

def dropLast (last : UInt8) (line : List UInt8) : List UInt8 :=
  if line.getLast? = some last then line.dropLast else line

/-- A line without its line feed and without one carriage return before it. -/
def content (line : List UInt8) : List UInt8 :=
  dropLast carriageReturn (dropLast lineFeed line)

def contents (bytes : List UInt8) : List (List UInt8) :=
  (cut bytes).map content

theorem cut_flatten (bytes : List UInt8) : (cut bytes).flatten = bytes := by
  induction bytes with
  | nil => rfl
  | cons byte rest inductionHypothesis =>
      change (if byte = lineFeed then [byte] :: cut rest
        else match cut rest with
          | [] => [[byte]]
          | line :: later => (byte :: line) :: later).flatten = _
      split
      · simp [inductionHypothesis]
      · split
        · rename_i empty
          rw [empty] at inductionHypothesis
          simpa using inductionHypothesis
        · rename_i line later found
          rw [found] at inductionHypothesis
          simpa using inductionHypothesis

end FlashScript.Lines
