/-
What an emission appends.  The instructions of a burst are a list that does not
depend on the script; emitting pushes that list, and everything of it is
appended exactly when the script has room for all of it.
-/

import FlashScript.Script
import FlashScript.Proofs.Stream

namespace FlashScript

theorem SkipCount.toNat_pos (count : SkipCount) : 0 < count.val.toNat := by
  apply Nat.pos_of_ne_zero
  intro zero
  exact count.property (UInt8.toNat_inj.mp zero)

namespace Burst

open Instruction (totalLength)

/-- The skips of a gap: as many of the longest ones as it holds, then the rest. -/
def skips (gap : Nat) : List Instruction :=
  List.replicate (gap / 255) (.skip Script.longestSkip) ++
    (Instruction.skip? (UInt8.ofNat (gap % 255))).toList

/-- Everything that programs a burst, in order. -/
def instructions (burst : Burst) : List Instruction :=
  (if burst.entersConfig then [.enterConfig] else []) ++ skips burst.gap ++
    writes burst.words

/-! ### Skips -/

theorem skips_of_le {gap : Nat} (long : 255 ≤ gap) :
    skips gap = .skip Script.longestSkip :: skips (gap - 255) := by
  have count : gap / 255 = (gap - 255) / 255 + 1 := by omega
  have remainder : gap % 255 = (gap - 255) % 255 := by omega
  rw [skips, skips, count, remainder, List.replicate_succ, List.cons_append]

theorem skips_of_lt {gap : Nat} (short : gap < 255) :
    skips gap = (Instruction.skip? (UInt8.ofNat gap)).toList := by
  rw [skips, Nat.div_eq_of_lt short, Nat.mod_eq_of_lt short,
    List.replicate_zero, List.nil_append]

theorem skip?_ofNat_pos {gap : Nat} (positive : 0 < gap) (short : gap < 255) :
    ∃ count : SkipCount, count.val.toNat = gap ∧
      Instruction.skip? (UInt8.ofNat gap) = some (.skip count) := by
  have value : (UInt8.ofNat gap).toNat = gap := by
    simp only [UInt8.toNat_ofNat']
    omega
  have nonzero : UInt8.ofNat gap ≠ 0 := by
    intro zero
    rw [zero, UInt8.toNat_zero] at value
    omega
  exact ⟨⟨UInt8.ofNat gap, nonzero⟩, value, dif_pos nonzero⟩

theorem skips_induction {motive : Nat → List Instruction → Prop}
    (none : motive 0 [])
    (last : ∀ (gap : Nat) (count : SkipCount),
      count.val.toNat = gap → motive gap [.skip count])
    (longest : ∀ gap later,
      motive gap later → motive (gap + 255) (.skip Script.longestSkip :: later))
    (gap : Nat) : motive gap (skips gap) := by
  -- The longest skips are taken off the gap one at a time.
  induction gap using Nat.strongRecOn with
  | ind gap inductionHypothesis =>
      by_cases long : 255 ≤ gap
      · have shorter := longest (gap - 255) _ (inductionHypothesis (gap - 255) (by omega))
        rw [Nat.sub_add_cancel long] at shorter
        rw [skips_of_le long]
        exact shorter
      · rw [skips_of_lt (Nat.lt_of_not_le long)]
        rcases Nat.eq_zero_or_pos gap with zero | positive
        · subst zero
          exact none
        · obtain ⟨count, value, found⟩ :=
            skip?_ofNat_pos positive (Nat.lt_of_not_le long)
          rw [found]
          exact last gap count value

theorem legal_skips (gap : Nat) :
    ∀ instruction ∈ skips gap, instruction.Legal := by
  induction gap using skips_induction with
  | none => simp
  | last gap count value => simp [Instruction.Legal]
  | longest gap later inductionHypothesis =>
      simpa [Instruction.Legal] using inductionHypothesis

theorem totalLength_skips (gap : Nat) :
    totalLength (skips gap) = 2 * ((gap + 254) / 255) := by
  induction gap using skips_induction with
  | none => rfl
  | last gap count value =>
      have positive := SkipCount.toNat_pos count
      have bounded := count.val.toNat_lt
      simp only [Instruction.totalLength_cons, Instruction.encodedLength,
        Instruction.totalLength_nil]
      omega
  | longest gap later inductionHypothesis =>
      rw [Instruction.totalLength_cons, inductionHypothesis,
        Instruction.encodedLength]
      omega

/-! ### Writes -/

theorem chunks_nil : chunks [] = [] := by
  rw [chunks]
  rfl

theorem chunks_of_ne_nil {words : List UInt8} (nonempty : words ≠ []) :
    chunks words =
      words.take (2 * Instruction.maxWords) ::
        chunks (words.drop (2 * Instruction.maxWords)) := by
  rw [chunks, List.isEmpty_eq_false_iff.mpr nonempty, if_neg Bool.false_ne_true]

theorem writes_nil : writes [] = [] := by
  rw [writes, chunks_nil, List.map_nil]

theorem writes_of_ne_nil {words : List UInt8} (nonempty : words ≠ []) :
    writes words =
      .write (words.take (2 * Instruction.maxWords)) ::
        writes (words.drop (2 * Instruction.maxWords)) := by
  rw [writes, chunks_of_ne_nil nonempty, List.map_cons]
  rfl

theorem writes_induction {motive : List UInt8 → List Instruction → Prop}
    (nil : motive [] [])
    (cons : ∀ words later, words ≠ [] →
      motive (words.drop (2 * Instruction.maxWords)) later →
      motive words (.write (words.take (2 * Instruction.maxWords)) :: later))
    (words : List UInt8) : motive words (writes words) := by
  induction words using chunks.induct with
  | case1 words empty =>
      rw [List.isEmpty_iff.mp empty, writes_nil]
      exact nil
  | case2 words nonempty inductionHypothesis =>
      have filled : words ≠ [] := fun empty =>
        nonempty (List.isEmpty_iff.mpr empty)
      rw [writes_of_ne_nil filled]
      exact cons words _ filled inductionHypothesis

theorem legal_writes {words : List UInt8} (even : words.length % 2 = 0) :
    ∀ instruction ∈ writes words, instruction.Legal := by
  induction words using writes_induction with
  | nil => simp
  | cons words later nonempty inductionHypothesis =>
      have positive := List.length_pos_iff.mpr nonempty
      have evenLater :
          (words.drop (2 * Instruction.maxWords)).length % 2 = 0 := by
        simp only [List.length_drop, Instruction.maxWords]
        omega
      intro instruction member
      rcases List.mem_cons.mp member with first | rest
      · subst first
        simp only [Instruction.Legal, List.length_take, Instruction.maxWords]
        omega
      · exact inductionHypothesis evenLater instruction rest

/-- One byte of count for every 255 words that have begun. -/
theorem totalLength_writes (words : List UInt8) :
    totalLength (writes words) = (words.length + 509) / 510 + words.length := by
  induction words using writes_induction with
  | nil => rfl
  | cons words later nonempty inductionHypothesis =>
      have positive := List.length_pos_iff.mpr nonempty
      rw [Instruction.totalLength_cons, inductionHypothesis]
      simp only [Instruction.encodedLength, List.length_take, List.length_drop,
        Instruction.maxWords]
      omega

/-! ### The whole burst -/

theorem legal_instructions {burst : Burst} (even : burst.words.length % 2 = 0) :
    ∀ instruction ∈ burst.instructions, instruction.Legal := by
  intro instruction member
  rcases List.mem_append.mp member with front | write
  · rcases List.mem_append.mp front with entry | skip
    · cases enters : burst.entersConfig with
      | true =>
          rw [enters, if_pos rfl] at entry
          rw [List.mem_singleton.mp entry]
          trivial
      | false =>
          rw [enters, if_neg Bool.false_ne_true] at entry
          cases entry
    · exact legal_skips burst.gap instruction skip
  · exact legal_writes even instruction write

theorem totalLength_instructions (burst : Burst) :
    totalLength burst.instructions =
      (if burst.entersConfig then 2 else 0) + 2 * ((burst.gap + 254) / 255) +
        ((burst.words.length + 509) / 510 + burst.words.length) := by
  rw [instructions, Instruction.totalLength_append,
    Instruction.totalLength_append, totalLength_skips, totalLength_writes]
  cases burst.entersConfig <;> rfl

theorem enterConfig_not_mem_skips (gap : Nat) :
    Instruction.enterConfig ∉ skips gap := by
  induction gap using skips_induction with
  | none => exact List.not_mem_nil
  | last gap count value => simp
  | longest gap later inductionHypothesis => simpa using inductionHypothesis

theorem enterConfig_not_mem_writes (words : List UInt8) :
    Instruction.enterConfig ∉ writes words := by
  intro member
  obtain ⟨chunk, _, same⟩ := List.mem_map.mp member
  cases same

theorem count_enterConfig_instructions (burst : Burst) :
    burst.instructions.count .enterConfig = if burst.entersConfig then 1 else 0 := by
  rw [instructions, List.count_append, List.count_append,
    List.count_eq_zero.mpr (enterConfig_not_mem_skips burst.gap),
    List.count_eq_zero.mpr (enterConfig_not_mem_writes burst.words)]
  cases burst.entersConfig <;> rfl

theorem enterConfig_mem_instructions_iff {burst : Burst} :
    .enterConfig ∈ burst.instructions ↔ burst.entersConfig = true := by
  rw [← List.count_pos_iff, count_enterConfig_instructions]
  cases burst.entersConfig <;> simp

end Burst

/-! ### Pushing a list of instructions -/

namespace Script

open Instruction (totalLength)

/-- A script that needs no room is given all of the instructions. -/
def appendAll (script : Script) (instructions : List Instruction) : Script :=
  instructions.foldl append script

@[simp] theorem toList_opcodes_append (script : Script) (instruction : Instruction) :
    (script.append instruction).opcodes.toList =
      script.opcodes.toList ++ instruction.encode := by
  simp [append]

@[simp] theorem size_append (script : Script) (instruction : Instruction) :
    (script.append instruction).size = script.size + instruction.encodedLength := by
  rw [size, size, ← Array.length_toList, toList_opcodes_append,
    List.length_append, Instruction.length_encode, Array.length_toList,
    Nat.add_assoc]

theorem toList_opcodes_appendAll (script : Script) (instructions : List Instruction) :
    (script.appendAll instructions).opcodes.toList =
      script.opcodes.toList ++ instructions.flatMap Instruction.encode := by
  induction instructions generalizing script with
  | nil => simp [appendAll]
  | cons instruction later inductionHypothesis =>
      change ((script.append instruction).appendAll later).opcodes.toList = _
      rw [inductionHypothesis, toList_opcodes_append, List.flatMap_cons,
        List.append_assoc]

theorem size_appendAll (script : Script) (instructions : List Instruction) :
    (script.appendAll instructions).size = script.size + totalLength instructions := by
  rw [size, size, ← Array.length_toList, toList_opcodes_appendAll,
    List.length_append, Instruction.length_flatMap_encode, Array.length_toList,
    Nat.add_assoc]

@[simp] theorem deviceId_appendAll (script : Script) (instructions : List Instruction) :
    (script.appendAll instructions).deviceId = script.deviceId := by
  induction instructions generalizing script with
  | nil => rfl
  | cons instruction later inductionHypothesis =>
      exact inductionHypothesis (script.append instruction)

@[simp] theorem scriptEnd_appendAll (script : Script) (instructions : List Instruction) :
    (script.appendAll instructions).scriptEnd = script.scriptEnd := by
  induction instructions generalizing script with
  | nil => rfl
  | cons instruction later inductionHypothesis =>
      exact inductionHypothesis (script.append instruction)

theorem length_toBytes (script : Script) : script.toBytes.length = script.size := by
  rw [toBytes, List.length_append, List.length_append, Array.length_toList]
  rfl

/-- The bytes of a script stay a beginning of it. -/
theorem toBytes_appendAll (script : Script) (instructions : List Instruction) :
    (script.appendAll instructions).toBytes =
      script.toBytes ++ instructions.flatMap Instruction.encode := by
  rw [toBytes, deviceId_appendAll, scriptEnd_appendAll, toList_opcodes_appendAll,
    ← List.append_assoc, ← toBytes]

theorem appendAll_append (script : Script) (first second : List Instruction) :
    script.appendAll (first ++ second) = (script.appendAll first).appendAll second :=
  List.foldl_append

theorem pushAll_append (script : Script) (first second : List Instruction) :
    script.pushAll (first ++ second) =
      (script.pushAll first).andThen (fun longer => longer.pushAll second) := by
  induction first generalizing script with
  | nil => rfl
  | cons instruction later inductionHypothesis =>
      simp only [List.cons_append, pushAll, push]
      split
      · simp only [Emission.andThen, if_true]
        exact inductionHypothesis (script.append instruction)
      · rfl

theorem pushSkips_eq_pushAll (script : Script) (gap : Nat) :
    script.pushSkips gap = script.pushAll (Burst.skips gap) := by
  induction gap using Nat.strongRecOn generalizing script with
  | ind gap inductionHypothesis =>
      rw [pushSkips]
      by_cases long : 255 ≤ gap
      · rw [if_pos long, Burst.skips_of_le long, pushAll]
        congr 1
        funext longer
        exact inductionHypothesis (gap - 255) (by omega) longer
      · rw [if_neg long, Burst.skips_of_lt (Nat.lt_of_not_le long)]
        cases Instruction.skip? (UInt8.ofNat gap) with
        | none => rfl
        | some instruction =>
            simp only [Option.toList_some, pushAll, push]
            split <;> rfl

theorem emit_eq_pushAll (script : Script) (burst : Burst) :
    script.emit burst = script.pushAll burst.instructions := by
  rw [Burst.instructions, pushAll_append, pushAll_append]
  simp only [emit, pushSkips_eq_pushAll]

/-- With room for all of the instructions, all of them are appended. -/
theorem pushAll_of_room {script : Script} {instructions : List Instruction}
    (room : script.size + totalLength instructions ≤ capacity) :
    script.pushAll instructions =
      { script := script.appendAll instructions, complete := true } := by
  induction instructions generalizing script with
  | nil => rfl
  | cons instruction later inductionHypothesis =>
      rw [Instruction.totalLength_cons] at room
      have fits : script.hasRoomFor instruction = true := by
        simp only [hasRoomFor, decide_eq_true_eq]
        omega
      have roomLater :
          (script.append instruction).size + totalLength later ≤ capacity := by
        rw [size_append]
        omega
      rw [pushAll, push, if_pos fits, Emission.andThen, if_pos rfl,
        inductionHypothesis roomLater]
      rfl

theorem emit_of_room {script : Script} {burst : Burst}
    (room : script.size + totalLength burst.instructions ≤ capacity) :
    script.emit burst =
      { script := script.appendAll burst.instructions, complete := true } := by
  rw [emit_eq_pushAll, pushAll_of_room room]

theorem pushAll_of_complete {script : Script} {instructions : List Instruction}
    (complete : (script.pushAll instructions).complete = true) :
    (script.pushAll instructions).script = script.appendAll instructions := by
  induction instructions generalizing script with
  | nil => rfl
  | cons instruction later inductionHypothesis =>
      rw [pushAll, push] at complete ⊢
      split at complete
      · rename_i fits
        rw [if_pos fits]
        exact inductionHypothesis complete
      · cases complete

/-- The opcodes are the encodings of legal instructions, one after the other. -/
structure Lists (script : Script) (instructions : List Instruction) : Prop where
  legal : ∀ instruction ∈ instructions, instruction.Legal
  written : script.opcodes.toList = instructions.flatMap Instruction.encode

theorem lists_empty (deviceId : UInt16) : (empty deviceId).Lists [] :=
  { legal := by simp
    written := rfl }

theorem Lists.listing_eq {script : Script} {instructions : List Instruction}
    (lists : script.Lists instructions) :
    script.listing = { instructions := instructions, truncatedAt := none } := by
  rw [listing, lists.written, Listing.ofStream_encode lists.legal]

theorem Lists.size_eq {script : Script} {instructions : List Instruction}
    (lists : script.Lists instructions) :
    script.size = headerSize + totalLength instructions := by
  rw [size, ← Array.length_toList, lists.written, Instruction.length_flatMap_encode]

theorem Lists.appendAll {script : Script} {instructions later : List Instruction}
    (lists : script.Lists instructions)
    (legal : ∀ instruction ∈ later, instruction.Legal) :
    (script.appendAll later).Lists (instructions ++ later) where
  legal := by
    intro instruction member
    rcases List.mem_append.mp member with before | after
    · exact lists.legal instruction before
    · exact legal instruction after
  written := by
    rw [toList_opcodes_appendAll, lists.written, List.flatMap_append]

end Script

end FlashScript
