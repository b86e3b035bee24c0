/-
The journal of a run: notes of a severity and a topic.
-/

namespace FlashScript

inductive Severity where
  | error
  | warn
  | info
  | debug
  | trace
  deriving DecidableEq

namespace Severity

def rank : Severity → Nat
  | .error => 1
  | .warn => 2
  | .info => 3
  | .debug => 4
  | .trace => 5

def label : Severity → String
  | .error => "ERROR"
  | .warn => "WARN"
  | .info => "INFO"
  | .debug => "DEBUG"
  | .trace => "TRACE"

def labelWidth : Nat := 5

def padded (severity : Severity) : String :=
  String.ofList (severity.label.toList.rightpad labelWidth ' ')

end Severity

inductive Topic where
  | program
  | conversion
  | menu
  | compilation
  | placement
  | script
  | image
  deriving DecidableEq

/-- The name under which a directive selects a topic. -/
def Topic.target : Topic → String
  | .program => "picprog"
  | .conversion => "picprog::util"
  | .menu => "picprog::menu"
  | .compilation => "picprog_common::compiler"
  | .placement => "picprog_common::translator"
  | .script => "picprog_common::script"
  | .image => "picprog_common::image"

structure Note where
  severity : Severity
  topic : Topic
  text : String
  deriving DecidableEq

/-- Lines of a note after the first are set in by four spaces. -/
def Note.render (note : Note) : String :=
  "[" ++ note.severity.padded ++ " " ++ note.topic.target ++ "] " ++
    String.intercalate "\n    " (note.text.splitOn "\n") ++ "\n"

end FlashScript
