/-
What the loader does with the instructions of a burst: it moves over the gap,
from the config region if the burst enters it, and stores the words of the
burst at the addresses that follow.
-/

import FlashScript.Proofs.Emission
import FlashScript.Proofs.Words

namespace FlashScript

namespace Burst

/-- Address that the gap begins at. -/
def origin (burst : Burst) (configStart address : Nat) : Nat :=
  if burst.entersConfig then configStart else address

/-- The stores that the words of a burst ask for. -/
def stores (burst : Burst) (configStart address : Nat) : List Store :=
  Store.consecutive (burst.origin configStart address + burst.gap)
    (Word.ofBytes burst.words)

def limit (burst : Burst) (configStart address : Nat) : Nat :=
  burst.origin configStart address + burst.gap + burst.words.length / 2

end Burst

namespace Loader

theorem runFrom_append (configStart address : Nat)
    (first second : List Instruction) :
    runFrom configStart address (first ++ second) =
      { stores := (runFrom configStart address first).stores ++
          (runFrom configStart (runFrom configStart address first).address
            second).stores
        address :=
          (runFrom configStart (runFrom configStart address first).address
            second).address } := by
  induction first generalizing address with
  | nil => rfl
  | cons instruction later inductionHypothesis =>
      simp only [List.cons_append, runFrom, inductionHypothesis,
        List.append_assoc]

theorem runFrom_skips (configStart address gap : Nat) :
    runFrom configStart address (Burst.skips gap) =
      { stores := [], address := address + gap } := by
  induction gap using Burst.skips_induction generalizing address with
  | none => rfl
  | last gap count value =>
      rw [← value]
      rfl
  | longest gap later inductionHypothesis =>
      have step : next configStart address (.skip Script.longestSkip) =
          address + 255 := rfl
      rw [runFrom, step, inductionHypothesis (address + 255), Nat.add_assoc,
        Nat.add_comm 255]
      rfl

theorem runFrom_writes (configStart address : Nat) (words : List UInt8) :
    runFrom configStart address (Burst.writes words) =
      { stores := Store.consecutive address (Word.ofBytes words)
        address := address + words.length / 2 } := by
  induction words using Burst.writes_induction generalizing address with
  | nil => rfl
  | cons words later nonempty inductionHypothesis =>
      -- Only the last piece may have an odd byte, and nothing follows that piece.
      have joined :
          Word.ofBytes words =
            Word.ofBytes (words.take (2 * Instruction.maxWords)) ++
              Word.ofBytes (words.drop (2 * Instruction.maxWords)) := by
        by_cases whole : words.length ≤ 2 * Instruction.maxWords
        · rw [List.take_of_length_le whole, List.drop_of_length_le whole]
          exact (List.append_nil (Word.ofBytes words)).symm
        · have even :
              (words.take (2 * Instruction.maxWords)).length % 2 = 0 := by
            rw [List.length_take_of_le (Nat.le_of_not_le whole)]
            exact Nat.mul_mod_right 2 Instruction.maxWords
          rw [← Word.ofBytes_append even, List.take_append_drop]
      have lengths := congrArg List.length joined
      simp only [List.length_append, Word.length_ofBytes] at lengths
      rw [runFrom, inductionHypothesis, joined, Store.consecutive_append]
      simp only [next, stores, Word.length_ofBytes, lengths, Nat.add_assoc]

theorem runFrom_instructions (configStart address : Nat) (burst : Burst) :
    runFrom configStart address burst.instructions =
      { stores := burst.stores configStart address
        address := burst.limit configStart address } := by
  have entered :
      runFrom configStart address
          (if burst.entersConfig then [.enterConfig] else []) =
        { stores := [], address := burst.origin configStart address } := by
    rw [Burst.origin]
    cases burst.entersConfig <;> rfl
  rw [Burst.instructions, runFrom_append, runFrom_append, entered, runFrom_skips,
    runFrom_writes]
  rfl

end Loader

end FlashScript
