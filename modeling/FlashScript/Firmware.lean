/-
A firmware text read for what it means, without a cursor and without a script.
What a line asks for is settled by the lines before it: the latest extended
address gives the half of the address space, and the latest data record the
address below which no more data may come.
-/

import FlashScript.Compilation
import FlashScript.Loader

namespace FlashScript

/-- The words of a data record and where the first one goes. -/
structure DataRun where
  address : Nat
  words : List Word
  deriving DecidableEq

/-- First address after the words. -/
def DataRun.limit (run : DataRun) : Nat :=
  run.address + run.words.length

namespace Firmware

def records (lines : List String) : List Record :=
  lines.filterMap (fun line => (Record.parse line).toOption)

/-- Last payload byte of the latest extended address, zero when there is none. -/
def extension (earlier : List Record) : Nat :=
  match earlier.reverse.find? (fun record => record.recordType = 4) with
  | some record => (record.payload.getLastD 0).toNat
  | none => 0

def effectiveAddress (earlier : List Record) (record : Record) : Nat :=
  record.address.toNat / 2 + Cursor.halfSize * extension earlier

def dataRunsAfter (earlier : List Record) : List Record → List DataRun
  | [] => []
  | record :: later =>
      let runs := dataRunsAfter (earlier ++ [record]) later
      if record.recordType = 0 then
        { address := effectiveAddress earlier record
          words := Word.ofBytes record.payload } :: runs
      else runs

def dataRuns (records : List Record) : List DataRun :=
  dataRunsAfter [] records

/-- First address after the latest data record, zero when there is none. -/
def reached (earlier : List Record) : Nat :=
  match (dataRuns earlier).getLast? with
  | some run => run.limit
  | none => 0

/-- The stores that data runs ask for, one word after the other. -/
def stores (runs : List DataRun) : List Store :=
  runs.flatMap (fun run => Store.consecutive run.address run.words)

/-! ### What is wrong with a line -/

def dataFault (geometry : Geometry) (earlier : List Record) (record : Record) :
    Option PlacementError :=
  let address := effectiveAddress earlier record
  if record.address.toNat % 2 = 1 then some (.misaligned record.address.toNat)
  else if geometry.spaceLimit ≤ address then some (.outOfRange address)
  else if geometry.programLimit ≤ address ∧ address < geometry.configStart then
    some (.outOfProgramMemory address)
  else if address < reached earlier then
    some (.nonMonotonic address (reached earlier))
  else if record.payload.length < 2 then some .emptyData
  else none

def recordFault (geometry : Geometry) (earlier : List Record) (record : Record) :
    Option PlacementError :=
  if record.recordType = 0 then dataFault geometry earlier record
  else if record.recordType = 1 then none
  else if record.recordType = 4 then
    if record.address = 0 ∧
        (record.payload = [0, 0] ∨ record.payload = [0, 1]) then none
    else some .unsupportedExtendedAddress
  else some (.unsupportedRecordType record.recordType)

/-- The lines before a line are given by their records. -/
def lineFault (geometry : Geometry) (earlier : List Record) (line : String) :
    Option LineError :=
  if line.isEmpty then none
  else
    match Record.parse line with
    | .error error => some (.record error)
    | .ok record => (recordFault geometry earlier record).map .placement

def firstFaultAfter (geometry : Geometry) (earlier : List String) :
    List String → Option Diagnostic
  | [] => none
  | line :: later =>
      match lineFault geometry (records earlier) line with
      | some error =>
          some
            { line := earlier.length + 1
              content := line
              error := error }
      | none => firstFaultAfter geometry (earlier ++ [line]) later

/-- The first line that a device's geometry does not admit. -/
def firstFault (geometry : Geometry) (lines : List String) : Option Diagnostic :=
  firstFaultAfter geometry [] lines

end Firmware

end FlashScript
