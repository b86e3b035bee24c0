/-
Instructions written and streams read are two forms of the same thing.  Legal
instructions are read back in front of any stream, and every stream is made of
legal instructions and of a rest that no instruction begins; reading gives the
former and, if there is a rest, its offset.
-/

import FlashScript.Script
import FlashScript.Proofs.Stream

namespace FlashScript

/-! ### Streams that no instruction begins -/

namespace Instruction

/-- Nothing is read where no legal instruction has been written. -/
theorem decode?_eq_none_iff {stream : List UInt8} :
    decode? stream = none ↔
      ∀ instruction : Instruction,
        instruction.Legal → ¬instruction.encode <+: stream := by
  constructor
  · intro missing instruction legal begins
    obtain ⟨rest, same⟩ := begins
    have decoded := decode?_encode_append instruction legal rest
    rw [same, missing] at decoded
    cases decoded
  · intro absent
    cases decoded : decode? stream with
    | none => rfl
    | some found =>
        obtain ⟨instruction, rest⟩ := found
        obtain ⟨legal, same⟩ := decode?_sound decoded
        exact absurd ⟨rest, same.symm⟩ (absent instruction legal)

/-- Legal instructions are taken off a stream until nothing can be read. -/
theorem exists_encode_append (stream : List UInt8) :
    ∃ (instructions : List Instruction) (rest : List UInt8),
      (∀ instruction ∈ instructions, instruction.Legal) ∧
        stream = instructions.flatMap encode ++ rest ∧ decode? rest = none := by
  induction length : stream.length using Nat.strongRecOn generalizing stream with
  | ind size inductionHypothesis =>
      cases decoded : decode? stream with
      | none => exact ⟨[], stream, nofun, rfl, decoded⟩
      | some found =>
          obtain ⟨instruction, later⟩ := found
          obtain ⟨legal, same⟩ := decode?_sound decoded
          have shorter : later.length < size := by
            have lengths := decode?_length decoded
            have positive := instruction.encodedLength_pos
            omega
          obtain ⟨others, rest, othersLegal, split, missing⟩ :=
            inductionHypothesis later.length shorter later rfl
          refine ⟨instruction :: others, rest, ?_, ?_, missing⟩
          · exact List.forall_mem_cons.mpr ⟨legal, othersLegal⟩
          · rw [List.flatMap_cons, List.append_assoc, ← split]
            exact same

end Instruction

namespace StreamReader

open Instruction (totalLength)

theorem items_of_undecodable {stream : List UInt8} (filled : stream ≠ [])
    (missing : Instruction.decode? stream = none) (offset : Nat) :
    items { stream := stream, offset := offset } = [.error offset] := by
  have read : next { stream := stream, offset := offset } =
      some (.error offset, { stream := [], offset := offset }) := by
    simp only [next, List.isEmpty_eq_false_iff.mpr filled,
      if_neg Bool.false_ne_true, missing]
  rw [items_of_next read, items_nil]

/-- Where a stream lies moves the offset of what is broken off and nothing else. -/
theorem items_add_offset (stream : List UInt8) (offset distance : Nat) :
    items { stream := stream, offset := offset + distance } =
      (items { stream := stream, offset := offset }).map
        (Except.mapError (fun place => place + distance)) := by
  obtain ⟨instructions, rest, legal, split, missing⟩ :=
    Instruction.exists_encode_append stream
  have kept : (instructions.map Except.ok).map
      (Except.mapError (fun place => place + distance)) =
        instructions.map (Except.ok (ε := Nat)) := by
    rw [List.map_map]
    rfl
  rw [split, items_encode_append legal, items_encode_append legal,
    List.map_append, kept]
  congr 1
  by_cases whole : rest = []
  · rw [whole, items_nil, items_nil, List.map_nil]
  · rw [items_of_undecodable whole missing, items_of_undecodable whole missing,
      Nat.add_right_comm]
    rfl

end StreamReader

/-- What is pushed is what is read back: legal instructions come out in front of
the items of any stream that follows them, and every stream is read as the legal
instructions that it begins with and the offset of a rest that begins with
none. -/
theorem reading_inverts_writing :
    (∀ (script : Script) (instruction : Instruction),
      script.hasRoomFor instruction = true →
        (script.push instruction).complete = true ∧
          (script.push instruction).script.opcodes.toList =
            script.opcodes.toList ++ instruction.encode) ∧
    (∀ (instructions : List Instruction) (stream : List UInt8),
      (∀ instruction ∈ instructions, instruction.Legal) →
        let written := instructions.flatMap Instruction.encode
        (StreamReader.start (written ++ stream)).items =
          instructions.map Except.ok ++
            (StreamReader.start stream).items.map
              (Except.mapError (fun offset => offset + written.length))) ∧
    ∀ stream : List UInt8, ∃ (instructions : List Instruction) (rest : List UInt8),
      (∀ instruction ∈ instructions, instruction.Legal) ∧
        let written := instructions.flatMap Instruction.encode
        stream = written ++ rest ∧
          (rest = [] ∧
              (StreamReader.start stream).items = instructions.map Except.ok ∨
            rest ≠ [] ∧
              (StreamReader.start stream).items =
                instructions.map Except.ok ++ [.error written.length] ∧
              ∀ instruction : Instruction,
                instruction.Legal → ¬instruction.encode <+: rest) := by
  refine ⟨?_, ?_, ?_⟩
  · intro script instruction room
    rw [Script.push, if_pos room]
    refine ⟨rfl, ?_⟩
    simp [Script.append]
  · intro instructions stream legal written
    have shifted := StreamReader.items_add_offset stream 0 written.length
    rw [Instruction.length_flatMap_encode] at shifted ⊢
    rw [StreamReader.start, StreamReader.items_encode_append legal, shifted]
    rfl
  · intro stream
    obtain ⟨instructions, rest, legal, split, missing⟩ :=
      Instruction.exists_encode_append stream
    have read := StreamReader.items_encode_append legal 0 rest
    rw [← split, Nat.zero_add] at read
    refine ⟨instructions, rest, legal, split, ?_⟩
    by_cases whole : rest = []
    · rw [whole, StreamReader.items_nil, List.append_nil] at read
      exact Or.inl ⟨whole, read⟩
    · rw [StreamReader.items_of_undecodable whole missing,
        ← Instruction.length_flatMap_encode] at read
      exact Or.inr ⟨whole, read, Instruction.decode?_eq_none_iff.mp missing⟩

/-- A write whose words look like other instructions, and a stream after it that
promises three words and holds one byte. -/
theorem reading_inverts_writing_before_truncation :
    let entry : List Instruction :=
      [.enterConfig, .skip ⟨7, by decide⟩, .write [0, 0, 0, 9]]
    (∀ instruction ∈ entry, instruction.Legal) ∧
      (StreamReader.start
          ([0, 0, 0, 7, 2, 0, 0, 0, 9] ++ [3, 0xAA])).items =
        entry.map Except.ok ++ [.error 9] := by
  intro entry
  have legal : ∀ instruction ∈ entry, instruction.Legal := by decide
  have broken : (StreamReader.start [3, 0xAA]).items = [.error 0] :=
    StreamReader.items_of_undecodable (by decide) (by decide) 0
  have read := reading_inverts_writing.2.1 entry [3, 0xAA] legal
  rw [broken] at read
  exact ⟨legal, read⟩

end FlashScript
