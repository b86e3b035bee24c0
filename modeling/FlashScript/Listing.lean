/-
The instructions of an opcode stream in order.  A stream is read one item at a
time; one that ends inside an instruction gives the offset where that
instruction begins as its last item.
-/

import FlashScript.Instruction

namespace FlashScript

/-- What is left of a stream, and the offset that it begins at. -/
structure StreamReader where
  stream : List UInt8
  offset : Nat

namespace StreamReader

def start (stream : List UInt8) : StreamReader :=
  { stream := stream
    offset := 0 }

/-- An instruction, or the offset of one that is broken off; what is left of
such a stream is given up. -/
def next (reader : StreamReader) :
    Option (Except Nat Instruction × StreamReader) :=
  if reader.stream.isEmpty then none
  else
    match Instruction.decode? reader.stream with
    | some (instruction, rest) =>
        some (.ok instruction,
          { stream := rest
            offset := reader.offset + instruction.encodedLength })
    | none => some (.error reader.offset, { reader with stream := [] })

theorem length_next {reader later : StreamReader} {item : Except Nat Instruction}
    (read : reader.next = some (item, later)) :
    later.stream.length < reader.stream.length := by
  unfold next at read
  split at read
  · cases read
  · rename_i filled
    split at read
    · rename_i instruction rest decoded
      cases read
      have lengths := Instruction.decode?_length decoded
      have positive := instruction.encodedLength_pos
      change rest.length < reader.stream.length
      omega
    · cases read
      apply List.length_pos_iff.mpr
      intro empty
      exact filled (List.isEmpty_iff.mpr empty)

/-- Everything that reading gives until nothing is left. -/
def items (reader : StreamReader) : List (Except Nat Instruction) :=
  match _read : reader.next with
  | none => []
  | some (item, later) => item :: later.items
termination_by reader.stream.length
decreasing_by exact length_next _read

end StreamReader

structure Listing where
  instructions : List Instruction
  /-- Offset of an instruction that the stream breaks off. -/
  truncatedAt : Option Nat
  deriving DecidableEq

namespace Listing

def truncationMessage (offset : Nat) : String :=
  s!"truncated instruction at offset {offset}"

def ofItems (items : List (Except Nat Instruction)) : Listing :=
  { instructions := items.filterMap Except.toOption
    truncatedAt := items.findSome? (fun item =>
      match item with
      | .ok _ => none
      | .error offset => some offset) }

def ofStream (stream : List UInt8) : Listing :=
  ofItems (StreamReader.start stream).items

end Listing

end FlashScript
