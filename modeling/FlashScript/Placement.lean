/-
Where the words of a record go.  A cursor holds the address that the loader
will have reached and the half of the address space that extended addresses
select; a data record becomes a burst of consecutive words, or is refused.
-/

import FlashScript.Device
import FlashScript.Record

namespace FlashScript

structure Burst where
  /-- The words are the first ones in the config region. -/
  entersConfig : Bool
  /-- Words to pass over before the first one is written. -/
  gap : Nat
  words : List UInt8
  deriving DecidableEq

inductive PlacementError where
  | misaligned (byteAddress : Nat)
  | outOfRange (address : Nat)
  | outOfProgramMemory (address : Nat)
  | nonMonotonic (address reached : Nat)
  | emptyData
  | unsupportedExtendedAddress
  | unsupportedRecordType (recordType : UInt8)
  deriving DecidableEq

namespace PlacementError

def message : PlacementError → String
  | .misaligned byteAddress =>
      "new address can not be odd (" ++ Hex.number 4 byteAddress ++ ")"
  | .outOfRange address =>
      "address out of range (" ++ Hex.number 4 address ++ ")"
  | .outOfProgramMemory address =>
      "address out of program memory (" ++ Hex.number 4 address ++ ")"
  | .nonMonotonic address reached =>
      "new address " ++ Hex.number 4 address ++ " is lower than current " ++
        Hex.number 4 reached
  | .emptyData => "invalid data length"
  | .unsupportedExtendedAddress =>
      "extended linear address not supported, addresses > $1FFFF"
  | .unsupportedRecordType recordType =>
      "unknown record type " ++ Hex.number 2 recordType.toNat

end PlacementError

structure Cursor where
  address : Nat
  /-- Addresses are in the upper half of the 64 K words. -/
  upperHalf : Bool
  deriving DecidableEq

namespace Cursor

def start : Cursor :=
  { address := 0
    upperHalf := false }

def halfSize : Nat := 0x8000

/-- Word address that the half begins with. -/
def base (cursor : Cursor) : Nat :=
  if cursor.upperHalf then halfSize else 0

/-- Word address that a data record asks for. -/
def target (cursor : Cursor) (record : Record) : Nat :=
  record.address.toNat / 2 + cursor.base

/-- Payload without an odd last byte. -/
def wholeWords (payload : List UInt8) : List UInt8 :=
  payload.take (2 * (payload.length / 2))

/-- Whether a write at an address is the first one in the config region. -/
def entersConfig (geometry : Geometry) (cursor : Cursor) (address : Nat) : Bool :=
  geometry.configStart ≤ address ∧ cursor.address < geometry.configStart

/-- The cursor moves to the config region as soon as a legal address of that
region is asked for, also when the record has no word to write. -/
def arrive (geometry : Geometry) (cursor : Cursor) (address : Nat) : Cursor :=
  if cursor.entersConfig geometry address then
    { cursor with address := geometry.configStart }
  else cursor

def placeData (geometry : Geometry) (cursor : Cursor) (record : Record) :
    Cursor × Except PlacementError Burst :=
  let address := cursor.target record
  let arrived := cursor.arrive geometry address
  if record.address.toNat % 2 = 1 then
    (cursor, .error (.misaligned record.address.toNat))
  else if geometry.spaceLimit ≤ address then
    (cursor, .error (.outOfRange address))
  else if geometry.programLimit ≤ address ∧ address < geometry.configStart then
    (cursor, .error (.outOfProgramMemory address))
  else if address < arrived.address then
    (arrived, .error (.nonMonotonic address arrived.address))
  else if record.payload.length < 2 then
    (arrived, .error .emptyData)
  else
    ({ arrived with address := address + record.payload.length / 2 },
      .ok
        { entersConfig := cursor.entersConfig geometry address
          gap := address - arrived.address
          words := wholeWords record.payload })

/-- Only the two halves of the first 128 KiB can be selected. -/
def selectHalf (cursor : Cursor) (record : Record) :
    Except PlacementError Cursor :=
  if record.address ≠ 0 then .error .unsupportedExtendedAddress
  else
    match record.payload with
    | [0, 0] => .ok { cursor with upperHalf := false }
    | [0, 1] => .ok { cursor with upperHalf := true }
    | _ => .error .unsupportedExtendedAddress

/-- The cursor after a record and the words to program, if any.  The cursor is
given after an error too, since the records that follow are read from it. -/
def place (geometry : Geometry) (cursor : Cursor) (record : Record) :
    Cursor × Except PlacementError (Option Burst) :=
  match record.kind? with
  | some .data =>
      let (next, placed) := cursor.placeData geometry record
      (next, placed.map some)
  | some .endOfFile => (cursor, .ok none)
  | some .extendedLinearAddress =>
      match cursor.selectHalf record with
      | .ok next => (next, .ok none)
      | .error error => (cursor, .error error)
  | none => (cursor, .error (.unsupportedRecordType record.recordType))

end Cursor

end FlashScript
