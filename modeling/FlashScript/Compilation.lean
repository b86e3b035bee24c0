/-
Compiling firmware lines into a script.  Lines are fed one by one; an error
names the line and leaves cursor and script where the line brought them, and
feeding may go on.  A whole pass stops at the first error.
-/

import FlashScript.Device
import FlashScript.Script

namespace FlashScript

inductive LineError where
  | record (error : RecordError)
  | placement (error : PlacementError)
  | scriptOverflow
  deriving DecidableEq

def LineError.message : LineError → String
  | .record error => error.message
  | .placement error => error.message
  | .scriptOverflow => Script.overflowMessage

/-- An error and the line it was found on, counted from one. -/
structure Diagnostic where
  line : Nat
  content : String
  error : LineError
  deriving DecidableEq

def Diagnostic.message (diagnostic : Diagnostic) : String :=
  s!"line {diagnostic.line}: " ++ diagnostic.error.message ++ " in '" ++
    diagnostic.content ++ "'"

structure Compilation where
  geometry : Geometry
  cursor : Cursor
  script : Script
  lines : Nat
  deriving DecidableEq

namespace Compilation

def startOn (geometry : Geometry) : Compilation :=
  { geometry := geometry
    cursor := Cursor.start
    script := Script.empty geometry.deviceId
    lines := 0 }

def start (device : Device) : Compilation :=
  startOn device.geometry

def emit (compilation : Compilation) (burst : Burst) :
    Compilation × Except LineError Unit :=
  let emission := compilation.script.emit burst
  ({ compilation with script := emission.script },
    if emission.complete then .ok () else .error .scriptOverflow)

def feedRecord (compilation : Compilation) (record : Record) :
    Compilation × Except LineError Unit :=
  let (cursor, placed) := compilation.cursor.place compilation.geometry record
  let moved := { compilation with cursor := cursor }
  match placed with
  | .error error => (moved, .error (.placement error))
  | .ok none => (moved, .ok ())
  | .ok (some burst) => moved.emit burst

def feedText (compilation : Compilation) (line : String) :
    Compilation × Except LineError Unit :=
  match Record.parse line with
  | .error error => (compilation, .error (.record error))
  | .ok record => compilation.feedRecord record

/-- An empty line is counted and passed over. -/
def feedLine (compilation : Compilation) (line : String) :
    Compilation × Except Diagnostic Unit :=
  let counted := { compilation with lines := compilation.lines + 1 }
  if line.isEmpty then (counted, .ok ())
  else
    let (fed, outcome) := counted.feedText line
    (fed, outcome.mapError (fun error =>
      { line := counted.lines, content := line, error := error }))

def feedAll (compilation : Compilation) : List String → Except Diagnostic Compilation
  | [] => .ok compilation
  | line :: later =>
      match compilation.feedLine line with
      | (fed, .ok ()) => fed.feedAll later
      | (_, .error diagnostic) => .error diagnostic

def compile (device : Device) (lines : List String) : Except Diagnostic Script :=
  ((start device).feedAll lines).map (fun fed => fed.script)

end Compilation

end FlashScript
