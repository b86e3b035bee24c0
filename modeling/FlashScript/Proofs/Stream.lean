/-
Opcode streams made of whole instructions.  Each instruction tells from its
first bytes where it ends, so the encodings written one after the other are
read back as the same instructions, whatever bytes a write carries.
-/

import FlashScript.Listing

namespace FlashScript

namespace Instruction

/-- Bytes that the instructions take together. -/
def totalLength : List Instruction → Nat
  | [] => 0
  | instruction :: later => instruction.encodedLength + totalLength later

@[simp] theorem totalLength_nil : totalLength [] = 0 := rfl

@[simp] theorem totalLength_cons (instruction : Instruction)
    (later : List Instruction) :
    totalLength (instruction :: later) =
      instruction.encodedLength + totalLength later := rfl

@[simp] theorem totalLength_append (first second : List Instruction) :
    totalLength (first ++ second) = totalLength first + totalLength second := by
  induction first with
  | nil => simp
  | cons instruction later inductionHypothesis =>
      rw [List.cons_append, totalLength_cons, totalLength_cons, inductionHypothesis,
        Nat.add_assoc]

theorem length_flatMap_encode (instructions : List Instruction) :
    (instructions.flatMap encode).length = totalLength instructions := by
  induction instructions with
  | nil => rfl
  | cons instruction later inductionHypothesis =>
      rw [List.flatMap_cons, List.length_append, length_encode,
        inductionHypothesis, totalLength_cons]

end Instruction

namespace StreamReader

variable {reader later : StreamReader} {item : Except Nat Instruction}

theorem items_of_done (done : reader.next = none) : reader.items = [] := by
  rw [items]
  split
  · rfl
  · rename_i read
    rw [done] at read
    cases read

theorem items_of_next (read : reader.next = some (item, later)) :
    reader.items = item :: later.items := by
  rw [items]
  split
  · rename_i done
    rw [done] at read
    cases read
  · rename_i found
    rw [found] at read
    cases read
    rfl

theorem items_nil (offset : Nat) : items { stream := [], offset := offset } = [] :=
  items_of_done rfl

theorem next_of_decode? {stream rest : List UInt8} {instruction : Instruction}
    (decoded : Instruction.decode? stream = some (instruction, rest))
    (offset : Nat) :
    next { stream := stream, offset := offset } =
      some (.ok instruction,
        { stream := rest, offset := offset + instruction.encodedLength }) := by
  have filled : stream.isEmpty = false := by
    cases stream with
    | nil => cases decoded
    | cons first others => rfl
  simp only [next, filled, if_neg Bool.false_ne_true, decoded]

/-- Legal instructions in front of a stream are read in front of what the
stream holds, whose offsets move by the bytes that they take. -/
theorem items_encode_append {instructions : List Instruction}
    (legal : ∀ instruction ∈ instructions, instruction.Legal)
    (offset : Nat) (stream : List UInt8) :
    items
        { stream := instructions.flatMap Instruction.encode ++ stream
          offset := offset } =
      instructions.map Except.ok ++
        items
          { stream := stream
            offset := offset + Instruction.totalLength instructions } := by
  induction instructions generalizing offset with
  | nil => rfl
  | cons instruction others inductionHypothesis =>
      have decoded :
          Instruction.decode?
              ((instruction :: others).flatMap Instruction.encode ++ stream) =
            some (instruction, others.flatMap Instruction.encode ++ stream) := by
        rw [List.flatMap_cons, List.append_assoc]
        exact Instruction.decode?_encode_append instruction
          (legal instruction List.mem_cons_self) _
      rw [items_of_next (next_of_decode? decoded offset),
        inductionHypothesis (fun other member =>
          legal other (List.mem_cons_of_mem instruction member)),
        Instruction.totalLength_cons, Nat.add_assoc]
      rfl

end StreamReader

namespace Listing

theorem ofItems_map_ok (instructions : List Instruction) :
    ofItems (instructions.map Except.ok) =
      { instructions := instructions, truncatedAt := none } := by
  have whole :
      (instructions.map (Except.ok (ε := Nat))).filterMap Except.toOption =
        instructions := by
    rw [List.filterMap_map]
    exact List.filterMap_some
  rw [ofItems, whole]
  simp

theorem ofStream_encode {instructions : List Instruction}
    (legal : ∀ instruction ∈ instructions, instruction.Legal) :
    ofStream (instructions.flatMap Instruction.encode) =
      { instructions := instructions, truncatedAt := none } := by
  have items := StreamReader.items_encode_append legal 0 []
  rw [List.append_nil, StreamReader.items_nil, List.append_nil] at items
  rw [ofStream, StreamReader.start, items, ofItems_map_ok]

end Listing

end FlashScript
