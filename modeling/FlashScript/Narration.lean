/-
What the journal says about compiling: a note for each record line, for each
change of the half of the address space and for each instruction that went into
the script, and one note for a whole pass.
-/

import FlashScript.Compilation
import FlashScript.Image
import FlashScript.Journal
import FlashScript.Script

namespace FlashScript

namespace Narration

def ofRecord (line : Nat) (record : Record) : Note :=
  { severity := .trace
    topic := .compilation
    text :=
      s!"line {line}: type {record.recordType.toNat} at " ++
        Hex.number 4 record.address.toNat ++
        s!", {record.byteCount.toNat} bytes" }

def ofHalf (cursor : Cursor) : Note :=
  { severity := .trace
    topic := .placement
    text := "extended linear address, high " ++ Hex.number 4 cursor.base }

def ofInstruction (instruction : Instruction) : Note :=
  { severity := .trace
    topic := .script
    text := instruction.display }

/-- The instructions that a script holds from an offset of its opcodes on. -/
def ofGrowth (offset : Nat) (script : Script) : List Note :=
  let growth := script.opcodes.extract offset script.opcodes.size
  (Listing.ofStream growth.toList).instructions.map ofInstruction

/-- Notes on one line, from the opcodes there were before it and the
compilation after it. -/
def ofLine (line : String) (opcodesBefore : Nat) (fed : Compilation)
    (outcome : Except Diagnostic Unit) : List Note :=
  if line.isEmpty then []
  else
    match Record.parse line with
    | .error _ => []
    | .ok record =>
        let selected :=
          match record.kind?, outcome with
          | some .extendedLinearAddress, .ok () => [ofHalf fed.cursor]
          | _, _ => []
        ofRecord fed.lines record :: selected ++
          ofGrowth opcodesBefore fed.script

/-- Notes up to the first error, that line included. -/
def ofLines (compilation : Compilation) : List String → List Note
  | [] => []
  | line :: later =>
      let before := compilation.script.opcodes.size
      let (fed, outcome) := compilation.feedLine line
      let notes := ofLine line before fed outcome
      match outcome with
      | .ok () => notes ++ ofLines fed later
      | .error _ => notes

def ofPass (finished : Compilation) : Note :=
  { severity := .debug
    topic := .compilation
    text :=
      s!"{finished.lines} lines, script {finished.script.size} bytes, " ++
        "last address " ++ Hex.number 4 finished.cursor.address }

def ofSummary (summary : Summary) : Note :=
  { severity := .info
    topic := .conversion
    text := summary.message }

def ofScriptSegment (segment : Segment) : Note :=
  { severity := .debug
    topic := .image
    text :=
      "script segment " ++ Hex.number 4 segment.first.toNat ++ "..=" ++
        Hex.number 4 segment.last.toNat ++
        s!", {segment.data.length} bytes" }

end Narration

end FlashScript
