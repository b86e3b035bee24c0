/-
The script of a device: a header of device id and script end, and the opcodes
of the instructions.  The loader takes a script of limited size, so a push may
find no room; it then leaves the script as it was.  A summary counts what the
instructions of a script do.
-/

import FlashScript.Octets
import FlashScript.Listing
import FlashScript.Placement

namespace FlashScript

structure Script where
  deviceId : UInt16
  /-- First address after the script; zero until an image is composed. -/
  scriptEnd : UInt16
  opcodes : Array UInt8
  deriving DecidableEq

/-- How far an emission came: the script with the instructions that fit, and
whether those were all of them. -/
structure Emission where
  script : Script
  complete : Bool
  deriving DecidableEq

/-- Emission goes on only as long as everything fitted. -/
def Emission.andThen (emission : Emission) (next : Script → Emission) :
    Emission :=
  if emission.complete then next emission.script else emission

namespace Burst

/-- Pieces of 255 words, the last one shorter. -/
def chunks (words : List UInt8) : List (List UInt8) :=
  if words.isEmpty then []
  else
    words.take (2 * Instruction.maxWords) ::
      chunks (words.drop (2 * Instruction.maxWords))
termination_by words.length
decreasing_by
  cases words with
  | nil => contradiction
  | cons first later =>
      simp only [Instruction.maxWords, List.length_drop, List.length_cons]
      omega

def writes (words : List UInt8) : List Instruction :=
  (chunks words).map Instruction.write

end Burst

namespace Script

def headerSize : Nat := 4

def capacity : Nat := 30000

def overflowMessage : String :=
  s!"script buffer overflow, more than {capacity} bytes"

def empty (deviceId : UInt16) : Script :=
  { deviceId := deviceId
    scriptEnd := 0
    opcodes := #[] }

def size (script : Script) : Nat :=
  headerSize + script.opcodes.size

def toBytes (script : Script) : List UInt8 :=
  Octets.little script.deviceId ++ Octets.little script.scriptEnd ++
    script.opcodes.toList

def listing (script : Script) : Listing :=
  Listing.ofStream script.opcodes.toList

/-! ### Growing a script -/

def hasRoomFor (script : Script) (instruction : Instruction) : Bool :=
  script.size + instruction.encodedLength ≤ capacity

def append (script : Script) (instruction : Instruction) : Script :=
  { script with opcodes := script.opcodes ++ instruction.encode }

/-- A script that has no room stays as it is. -/
def push (script : Script) (instruction : Instruction) : Emission :=
  if script.hasRoomFor instruction then
    { script := script.append instruction, complete := true }
  else { script := script, complete := false }

/-- Instructions up to the first one that does not fit. -/
def pushAll (script : Script) : List Instruction → Emission
  | [] => { script := script, complete := true }
  | instruction :: later =>
      (script.push instruction).andThen (fun longer => longer.pushAll later)

def longestSkip : SkipCount :=
  ⟨255, by decide⟩

/-- Skips for a gap of any size, the longest ones first. -/
def pushSkips (script : Script) (gap : Nat) : Emission :=
  if 255 ≤ gap then
    (script.push (.skip longestSkip)).andThen
      (fun longer => longer.pushSkips (gap - 255))
  else
    match Instruction.skip? (UInt8.ofNat gap) with
    | some instruction => script.push instruction
    | none => { script := script, complete := true }
termination_by gap
decreasing_by omega

/-- The fewest bytes that program a burst. -/
def emit (script : Script) (burst : Burst) : Emission :=
  let entered := script.pushAll (if burst.entersConfig then [.enterConfig] else [])
  (entered.andThen (fun moved => moved.pushSkips burst.gap)).andThen
    (fun moved => moved.pushAll (Burst.writes burst.words))

end Script

/-! ### What a script does, in numbers

An instruction that the opcodes break off is left out of the count. -/

structure Summary where
  bytes : Nat
  words : Nat
  writes : Nat
  skips : Nat
  config : Bool
  deriving DecidableEq

namespace Summary

def add (summary : Summary) : Instruction → Summary
  | .enterConfig => { summary with config := true }
  | .skip _ => { summary with skips := summary.skips + 1 }
  | .write words =>
      { summary with
        writes := summary.writes + 1
        words := summary.words + words.length / 2 }

def ofInstructions (bytes : Nat) (instructions : List Instruction) : Summary :=
  instructions.foldl add
    { bytes := bytes
      words := 0
      writes := 0
      skips := 0
      config := false }

def ofScript (script : Script) : Summary :=
  ofInstructions script.size script.listing.instructions

def message (summary : Summary) : String :=
  s!"script: {summary.bytes} bytes, {summary.words} words in " ++
    s!"{summary.writes} writes, {summary.skips} skips" ++
    (if summary.config then ", config region" else "")

end Summary

end FlashScript
