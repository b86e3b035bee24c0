/-
No script does the work of a burst in fewer bytes.  Of any instructions it can be
counted how many words they skip and how many they write.  What they cost grows
with both counts, and both are settled by what the loader does: every store is a
word written, and the words between the last entry of the config region and the
address at the end have been skipped or written.
-/

import FlashScript.Proofs.Execution

namespace FlashScript

open Instruction (totalLength)

/-! ### Counting words -/

namespace Instruction

/-- Words that instructions pass over. -/
def skipped : List Instruction → Nat
  | [] => 0
  | .enterConfig :: later => skipped later
  | .skip count :: later => count.val.toNat + skipped later
  | .write _ :: later => skipped later

/-- Words that instructions store. -/
def written : List Instruction → Nat
  | [] => 0
  | .enterConfig :: later => written later
  | .skip _ :: later => written later
  | .write words :: later => words.length / 2 + written later

/-- One instruction skips at most 255 words and one writes at most 255. -/
theorem price_le_totalLength {instructions : List Instruction}
    (legal : ∀ instruction ∈ instructions, instruction.Legal) :
    2 * instructions.count .enterConfig + 2 * ((skipped instructions + 254) / 255) +
        ((written instructions + 254) / 255 + 2 * written instructions) ≤
      totalLength instructions := by
  induction instructions with
  | nil => simp [skipped, written]
  | cons instruction later inductionHypothesis =>
      rcases List.forall_mem_cons.mp legal with ⟨first, rest⟩
      have price := inductionHypothesis rest
      rw [totalLength_cons]
      cases instruction with
      | enterConfig =>
          rw [List.count_cons_self]
          simp only [skipped, written, encodedLength]
          omega
      | skip count =>
          have bounded := count.val.toNat_lt
          rw [List.count_cons_of_ne (by simp)]
          simp only [skipped, written, encodedLength]
          omega
      | write words =>
          rcases first with ⟨even, _, bounded⟩
          simp only [maxWords] at bounded
          rw [List.count_cons_of_ne (by simp)]
          simp only [skipped, written, encodedLength]
          omega

end Instruction

/-! ### Counting by what the loader does -/

namespace Loader

open Instruction (skipped written)

variable {instructions : List Instruction}

theorem length_stores_runFrom (configStart address : Nat)
    (instructions : List Instruction) :
    (runFrom configStart address instructions).stores.length =
      written instructions := by
  induction instructions generalizing address with
  | nil => rfl
  | cons instruction later inductionHypothesis =>
      cases instruction with
      | enterConfig => simp [runFrom, stores, written, inductionHypothesis]
      | skip count => simp [runFrom, stores, written, inductionHypothesis]
      | write words => simp [runFrom, stores, written, inductionHypothesis]

theorem address_runFrom_of_not_mem (configStart address : Nat)
    (outside : .enterConfig ∉ instructions) :
    (runFrom configStart address instructions).address =
      address + skipped instructions + written instructions := by
  induction instructions generalizing address with
  | nil => rfl
  | cons instruction later inductionHypothesis =>
      rw [List.mem_cons, not_or] at outside
      rcases outside with ⟨first, rest⟩
      rw [runFrom, inductionHypothesis _ rest]
      cases instruction with
      | enterConfig => exact absurd rfl first
      | skip count =>
          simp only [next, skipped, written]
          omega
      | write words =>
          simp only [next, skipped, written, Word.length_ofBytes]
          omega

/-- Only the words after the last entry count from the start of the region. -/
theorem address_runFrom_le_of_mem (configStart address : Nat)
    (entered : .enterConfig ∈ instructions) :
    (runFrom configStart address instructions).address ≤
      configStart + skipped instructions + written instructions := by
  induction instructions generalizing address with
  | nil => cases entered
  | cons instruction later inductionHypothesis =>
      rw [runFrom]
      by_cases again : .enterConfig ∈ later
      · have reached :=
          inductionHypothesis (next configStart address instruction) again
        cases instruction <;> simp only [skipped, written] <;> omega
      · rcases List.mem_cons.mp entered with first | later
        · subst first
          rw [address_runFrom_of_not_mem _ _ again]
          exact Nat.le_refl _
        · exact absurd later again

end Loader

/-! ### What a burst costs at least -/

namespace Burst

variable {burst : Burst} {configStart address : Nat} {instructions : List Instruction}

/-- Legal instructions that the loader at an address takes for the burst. -/
structure DoneBy (burst : Burst) (configStart address : Nat)
    (instructions : List Instruction) : Prop where
  legal : ∀ instruction ∈ instructions, instruction.Legal
  run : Loader.runFrom configStart address instructions =
    Loader.runFrom configStart address burst.instructions
  entry : .enterConfig ∈ instructions ↔ burst.entersConfig = true

theorem doneBy_instructions (even : burst.words.length % 2 = 0) :
    burst.DoneBy configStart address burst.instructions where
  legal := legal_instructions even
  run := rfl
  entry := enterConfig_mem_instructions_iff

theorem DoneBy.written_eq (done : burst.DoneBy configStart address instructions) :
    Instruction.written instructions = burst.words.length / 2 := by
  rw [← Loader.length_stores_runFrom configStart address instructions, done.run,
    Loader.runFrom_instructions, stores, Store.length_consecutive,
    Word.length_ofBytes]

theorem DoneBy.gap_le_skipped (done : burst.DoneBy configStart address instructions) :
    burst.gap ≤ Instruction.skipped instructions := by
  have ends := congrArg Loader.Trace.address done.run
  have written := done.written_eq
  rw [Loader.runFrom_instructions] at ends
  simp only [limit, origin] at ends
  by_cases enters : burst.entersConfig = true
  · have reached := Loader.address_runFrom_le_of_mem configStart address
      (done.entry.mpr enters)
    rw [if_pos enters] at ends
    omega
  · have reached := Loader.address_runFrom_of_not_mem configStart address
      (mt done.entry.mp enters)
    rw [if_neg enters] at ends
    omega

theorem DoneBy.toNat_entersConfig_le
    (done : burst.DoneBy configStart address instructions) :
    burst.entersConfig.toNat ≤ instructions.count .enterConfig := by
  cases enters : burst.entersConfig with
  | false => exact Nat.zero_le _
  | true => exact List.count_pos_iff.mpr (done.entry.mpr enters)

theorem totalLength_instructions_of_even (even : burst.words.length % 2 = 0) :
    totalLength burst.instructions =
      2 * burst.entersConfig.toNat + 2 * ((burst.gap + 254) / 255) +
        (burst.words.length / 2 + 254) / 255 + 2 * (burst.words.length / 2) := by
  rw [totalLength_instructions]
  cases burst.entersConfig with
  | false =>
      rw [if_neg Bool.false_ne_true, Bool.toNat_false]
      omega
  | true =>
      rw [if_pos rfl, Bool.toNat_true]
      omega

end Burst

/-- Emitting a burst pushes the cheapest instructions for it, and with room for them
the script grows by their bytes.  Legal instructions that make the same stores, end
on the same address and enter the config region exactly when the burst does take no
fewer bytes. -/
theorem burst_costs_least (burst : Burst) (even : burst.words.length % 2 = 0)
    (configStart address : Nat) :
    let words := burst.words.length / 2
    let least :=
      2 * burst.entersConfig.toNat + 2 * ((burst.gap + 254) / 255) +
        (words + 254) / 255 + 2 * words
    (∀ script : Script, script.emit burst = script.pushAll burst.instructions) ∧
      (∀ script : Script, script.size + least ≤ Script.capacity →
        (script.emit burst).complete = true ∧
          (script.emit burst).script.toBytes =
            script.toBytes ++ burst.instructions.flatMap Instruction.encode ∧
          (script.emit burst).script.size = script.size + least) ∧
      burst.DoneBy configStart address burst.instructions ∧
      totalLength burst.instructions = least ∧
      ∀ instructions, burst.DoneBy configStart address instructions →
        least ≤ totalLength instructions := by
  intro words least
  have cost : totalLength burst.instructions = least :=
    Burst.totalLength_instructions_of_even even
  refine ⟨?_, ?_, Burst.doneBy_instructions even, cost, ?_⟩
  · intro script
    exact Script.emit_eq_pushAll script burst
  · intro script room
    rw [← cost] at room
    rw [Script.emit_of_room room]
    refine ⟨rfl, Script.toBytes_appendAll script burst.instructions, ?_⟩
    rw [Script.size_appendAll, cost]
  · intro instructions done
    have price := Instruction.price_le_totalLength done.legal
    have entries := done.toNat_entersConfig_le
    have skipped := done.gap_le_skipped
    rw [done.written_eq] at price
    omega

/-- A loader that stands where the words go may write the first of them before
it enters the region.  It then has one more word to skip and one more write to
begin, and the script is a byte longer. -/
theorem burst_costs_least_of_write_before_entry :
    let burst : Burst :=
      { entersConfig := true
        gap := 1
        words := [0xAA, 0xBB, 0xCC, 0xDD] }
    let early : List Instruction :=
      [.write [0xAA, 0xBB], .enterConfig, .skip ⟨2, by decide⟩, .write [0xCC, 0xDD]]
    burst.words.length % 2 = 0 ∧ burst.DoneBy 0x2000 0x2001 early ∧
      totalLength burst.instructions = 9 ∧ totalLength burst.instructions ≤
        totalLength early ∧ totalLength early = 10 := by
  intro burst early
  have done : burst.DoneBy 0x2000 0x2001 early :=
    { legal := by decide
      run := by
        rw [Loader.runFrom_instructions]
        decide
      entry := by decide }
  obtain ⟨_, _, _, cost, least⟩ := burst_costs_least burst (by decide) 0x2000 0x2001
  exact ⟨by decide, done, cost.trans (by decide),
    Nat.le_trans (Nat.le_of_eq cost) (least early done), rfl⟩

end FlashScript
