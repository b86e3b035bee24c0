/-
Emissions at the end of the room that a script has.  What a burst asks for is
one list of instructions; the script takes the longest beginning of it that
fits and nothing after that.  Skips are counted down in 32 bits, and no skip is
longer than what is left to skip.
-/

import FlashScript.Proofs.Contents

namespace FlashScript

open Instruction (totalLength)

/-! ### What a burst asks for -/

namespace Burst

/-- Every 510 bytes of the words begin a write. -/
theorem writes_eq_map_range (words : List UInt8) :
    writes words =
      (List.range ((words.length + 509) / 510)).map
        (fun index => .write ((words.drop (510 * index)).take 510)) := by
  induction words using writes_induction with
  | nil => rfl
  | cons words later nonempty inductionHypothesis =>
      have positive := List.length_pos_iff.mpr nonempty
      have count : (words.length + 509) / 510 =
          ((words.drop (2 * Instruction.maxWords)).length + 509) / 510 + 1 := by
        simp only [List.length_drop, Instruction.maxWords]
        omega
      rw [inductionHypothesis, count, List.range_succ_eq_map, List.map_cons,
        List.map_map]
      congr 1
      apply List.map_congr_left
      intro index _
      simp only [List.drop_drop, Instruction.maxWords, Function.comp_apply,
        Nat.succ_eq_add_one, Nat.mul_add]
      congr 3
      omega

/-- The first skip takes as much of a gap as a skip can. -/
theorem skips_of_min {gap : Nat} {count : SkipCount}
    (taken : count.val.toNat = min gap 255) :
    skips gap = .skip count :: skips (gap - count.val.toNat) := by
  have positive := SkipCount.toNat_pos count
  by_cases long : 255 ≤ gap
  · have longest : count = Script.longestSkip := by
      apply Subtype.ext
      apply UInt8.toNat_inj.mp
      rw [taken]
      exact Nat.min_eq_right long
    rw [skips_of_le long, longest]
    rfl
  · have short := Nat.lt_of_not_le long
    obtain ⟨other, value, found⟩ := skip?_ofNat_pos (by omega) short
    have whole : other = count := by
      apply Subtype.ext
      apply UInt8.toNat_inj.mp
      omega
    have nothing : gap - count.val.toNat = 0 := by omega
    rw [skips_of_lt short, found, nothing, whole]
    rfl

end Burst

namespace Script

variable {script : Script} {instructions : List Instruction} {size : Nat}

/-! ### The longest beginning that fits -/

/-- A beginning of a list that fits after so many bytes, and that no other such
beginning is longer than. -/
structure LongestFit (size : Nat) (instructions fitted : List Instruction) : Prop where
  begins : fitted <+: instructions
  fits : size + totalLength fitted ≤ capacity
  longest : ∀ other, other <+: instructions → size + totalLength other ≤ capacity →
    other <+: fitted

theorem prefix_fitting_of_fits {other : List Instruction}
    (begins : other <+: instructions) (fits : size + totalLength other ≤ capacity) :
    other <+: fitting size instructions := by
  induction instructions generalizing size other with
  | nil => exact begins
  | cons instruction later inductionHypothesis =>
      cases other with
      | nil => exact List.nil_prefix
      | cons first rest =>
          obtain ⟨rfl, beginsLater⟩ := List.cons_prefix_cons.mp begins
          rw [Instruction.totalLength_cons] at fits
          have fitsFirst : size + first.encodedLength ≤ capacity := by omega
          rw [fitting, if_pos fitsFirst, List.prefix_cons_inj]
          apply inductionHypothesis beginsLater
          omega

theorem longestFit_fitting (within : size ≤ capacity) (instructions : List Instruction) :
    LongestFit size instructions (fitting size instructions) where
  begins := fitting_prefix size instructions
  fits := size_add_fitting_le within instructions
  longest := fun _ begins fits => prefix_fitting_of_fits begins fits

theorem complete_pushAll_iff (within : script.size ≤ capacity) :
    (script.pushAll instructions).complete = true ↔
      script.size + totalLength instructions ≤ capacity := by
  constructor
  · intro complete
    have room := size_add_fitting_le within instructions
    rw [← size_appendAll, ← script_pushAll, pushAll_of_complete complete,
      size_appendAll] at room
    exact room
  · intro room
    rw [pushAll_of_room room]

theorem complete_emit_iff (within : script.size ≤ capacity) (burst : Burst) :
    (script.emit burst).complete = true ↔
      script.size + totalLength burst.instructions ≤ capacity := by
  rw [emit_eq_pushAll]
  exact complete_pushAll_iff within

theorem toBytes_emit_of_complete {burst : Burst}
    (complete : (script.emit burst).complete = true) :
    (script.emit burst).script.toBytes =
      script.toBytes ++ burst.instructions.flatMap Instruction.encode := by
  rw [emit_eq_pushAll] at complete ⊢
  rw [pushAll_of_complete complete, toBytes_appendAll]

theorem toBytes_emit (script : Script) (burst : Burst) :
    (script.emit burst).script.toBytes =
      script.toBytes ++
        (fitting script.size burst.instructions).flatMap Instruction.encode := by
  rw [emit_eq_pushAll, script_pushAll, toBytes_appendAll]

/-! ### Counting down in 32 bits -/

/-- As much of what is left as one skip takes. -/
def nextSkip? (left : UInt32) : Option SkipCount :=
  if nonzero : (min left 255).toUInt8 ≠ 0 then some ⟨(min left 255).toUInt8, nonzero⟩
  else none

/-- What is left after a skip, if the skip is not longer than that. -/
def subtract? (left : UInt32) (count : SkipCount) : Option UInt32 :=
  if count.val.toUInt32 ≤ left then some (left - count.val.toUInt32) else none

theorem toNat_min (left : UInt32) :
    (min left 255).toUInt8.toNat = min left.toNat 255 := by
  have bound : (255 : UInt32).toNat = 255 := rfl
  rw [UInt32.toNat_toUInt8, Std.min_eq_if]
  split
  · rename_i short
    have numbers := UInt32.le_iff_toNat_le.mp short
    omega
  · rename_i long
    have numbers := mt UInt32.le_iff_toNat_le.mpr long
    omega

theorem subtract?_toNat {left rest : UInt32} {count : SkipCount}
    (found : subtract? left count = some rest) :
    rest.toNat + count.val.toNat = left.toNat := by
  unfold subtract? at found
  split at found
  · rename_i enough
    cases found
    rw [UInt32.toNat_sub_of_le _ _ enough, UInt8.toNat_toUInt32]
    have numbers := UInt32.le_iff_toNat_le.mp enough
    rw [UInt8.toNat_toUInt32] at numbers
    omega
  · cases found

/-- Skips for what is left, one at a time.  Nothing comes of a countdown that
would go below zero. -/
def countDown? (script : Script) (left : UInt32) : Option Emission :=
  match nextSkip? left with
  | none => some { script := script, complete := true }
  | some count =>
      if (script.pushInParts (.skip count)).complete then
        match _found : subtract? left count with
        | none => none
        | some rest => (script.pushInParts (.skip count)).script.countDown? rest
      else some (script.pushInParts (.skip count))
termination_by left.toNat
decreasing_by
  have numbers := subtract?_toNat _found
  have positive := SkipCount.toNat_pos count
  omega

theorem nextSkip?_toNat {left : UInt32} {count : SkipCount}
    (found : nextSkip? left = some count) : count.val.toNat = min left.toNat 255 := by
  unfold nextSkip? at found
  split at found
  · cases found
    exact toNat_min left
  · cases found

theorem eq_zero_of_nextSkip? {left : UInt32} (done : nextSkip? left = none) :
    left.toNat = 0 := by
  unfold nextSkip? at done
  split at done
  · cases done
  · rename_i zero
    have numbers := congrArg UInt8.toNat (Decidable.not_not.mp zero)
    rw [toNat_min, UInt8.toNat_zero] at numbers
    omega

/-- No skip is longer than what is left. -/
theorem exists_subtract? {left : UInt32} {count : SkipCount}
    (found : nextSkip? left = some count) :
    ∃ rest, subtract? left count = some rest := by
  have taken := nextSkip?_toNat found
  have enough : count.val.toUInt32 ≤ left := by
    rw [UInt32.le_iff_toNat_le, UInt8.toNat_toUInt32]
    omega
  exact ⟨_, if_pos enough⟩

theorem countDown?_of_nextSkip? {left rest : UInt32} {count : SkipCount}
    (found : nextSkip? left = some count) (same : subtract? left count = some rest) :
    script.countDown? left =
      if (script.push (.skip count)).complete then
        (script.push (.skip count)).script.countDown? rest
      else some (script.push (.skip count)) := by
  rw [countDown?, found]
  simp only [pushInParts_eq_push]
  split
  · split
    · rename_i under
      rw [same] at under
      cases under
    · rename_i other again
      rw [same] at again
      cases again
      rfl
  · rfl

theorem pushSkips_of_min {gap : Nat} {count : SkipCount}
    (taken : count.val.toNat = min gap 255) :
    script.pushSkips gap =
      (script.push (.skip count)).andThen
        (fun longer => longer.pushSkips (gap - count.val.toNat)) := by
  simp only [pushSkips_eq_pushAll, Burst.skips_of_min taken]
  rfl

/-- The countdown never goes below zero and pushes the skips of the gap. -/
theorem countDown?_eq (script : Script) (left : UInt32) :
    script.countDown? left = some (script.pushSkips left.toNat) := by
  induction size : left.toNat using Nat.strongRecOn generalizing script left with
  | ind gap inductionHypothesis =>
      cases found : nextSkip? left with
      | none =>
          have zero := eq_zero_of_nextSkip? found
          rw [countDown?, found, ← size, zero, pushSkips_eq_pushAll]
          rfl
      | some count =>
          obtain ⟨rest, same⟩ := exists_subtract? found
          have taken := nextSkip?_toNat found
          have left_eq := subtract?_toNat same
          have positive := SkipCount.toNat_pos count
          have difference : left.toNat - count.val.toNat = rest.toNat := by omega
          rw [countDown?_of_nextSkip? found same,
            inductionHypothesis rest.toNat (by omega) _ rest rfl, ← size,
            pushSkips_of_min taken, difference, Emission.andThen]
          split <;> rfl

def pushAllInParts (script : Script) : List Instruction → Emission
  | [] => { script := script, complete := true }
  | instruction :: later =>
      (script.pushInParts instruction).andThen (fun longer => longer.pushAllInParts later)

theorem pushAllInParts_eq (script : Script) (instructions : List Instruction) :
    script.pushAllInParts instructions = script.pushAll instructions := by
  induction instructions generalizing script with
  | nil => rfl
  | cons instruction later inductionHypothesis =>
      simp only [pushAllInParts, pushAll, pushInParts_eq_push, inductionHypothesis]

/-- An emission with its skips counted down in 32 bits and the parts of its
instructions stored one after the other. -/
def emitInParts? (script : Script) (entersConfig : Bool) (gap : UInt32)
    (words : List UInt8) : Option Emission :=
  let entered := script.pushAllInParts (if entersConfig then [.enterConfig] else [])
  if entered.complete then
    (entered.script.countDown? gap).map (fun skipped =>
      skipped.andThen (fun moved => moved.pushAllInParts (Burst.writes words)))
  else some entered

theorem emitInParts?_eq (script : Script) (entersConfig : Bool) (gap : UInt32)
    (words : List UInt8) :
    script.emitInParts? entersConfig gap words =
      some (script.emit
        { entersConfig := entersConfig
          gap := gap.toNat
          words := words }) := by
  simp only [emitInParts?, emit, pushAllInParts_eq, countDown?_eq, Option.map_some]
  generalize script.pushAll (if entersConfig = true then [.enterConfig] else []) = entered
  cases complete : entered.complete with
  | true => simp only [Emission.andThen, complete, if_true]
  | false =>
      simp only [Emission.andThen, complete, Bool.false_eq_true, if_false]

end Script

/-- A burst with any 32-bit gap and any bytes is emitted whole exactly when the
script has room for all that it asks for, and otherwise the longest beginning of
that is in the script; no skip of the countdown is longer than what is left. -/
theorem emission_takes_what_fits (script : Script) (entersConfig : Bool) (gap : UInt32)
    (words : List UInt8) (within : script.size ≤ 30000) :
    let burst : Burst :=
      { entersConfig := entersConfig
        gap := gap.toNat
        words := words }
    let emission := script.emit burst
    let fitted := Script.fitting script.size burst.instructions
    burst.instructions =
        (if entersConfig then [.enterConfig] else []) ++
          (List.replicate (gap.toNat / 255) (.skip Script.longestSkip) ++
            (Instruction.skip? (UInt8.ofNat (gap.toNat % 255))).toList) ++
          (List.range ((words.length + 509) / 510)).map
            (fun index => .write ((words.drop (510 * index)).take 510)) ∧
      script.emitInParts? entersConfig gap words = some emission ∧
      (emission.complete = true ↔
        script.size + totalLength burst.instructions ≤ 30000) ∧
      (emission.complete = true →
        emission.script.toBytes =
          script.toBytes ++ burst.instructions.flatMap Instruction.encode) ∧
      emission.script.toBytes = script.toBytes ++ fitted.flatMap Instruction.encode ∧
      Script.LongestFit script.size burst.instructions fitted := by
  intro burst emission fitted
  refine ⟨?_, script.emitInParts?_eq entersConfig gap words,
    Script.complete_emit_iff within burst, Script.toBytes_emit_of_complete,
    script.toBytes_emit burst, Script.longestFit_fitting within burst.instructions⟩
  rw [Burst.instructions, Burst.writes_eq_map_range]
  rfl

/-- Six bytes are left, and the write after the skips finds no room. -/
theorem emission_takes_what_fits_of_six_bytes :
    let script : Script :=
      { deviceId := 0x1400
        scriptEnd := 0
        opcodes := Array.replicate 29990 0 }
    let burst : Burst :=
      { entersConfig := true
        gap := 300
        words := [1, 2, 3] }
    script.size ≤ 30000 ∧
      (script.emit burst).complete = false ∧
      (script.emit burst).script.toBytes =
        script.toBytes ++ [0, 0, 0, 255, 0, 45] := by
  intro script burst
  have size : script.size = 29994 := by
    change 4 + (Array.replicate 29990 (0 : UInt8)).size = 29994
    rw [Array.size_replicate]
  have within : script.size ≤ 30000 := by omega
  obtain ⟨plan, _, room, _, bytes, _⟩ :=
    emission_takes_what_fits script true 300 [1, 2, 3] within
  change burst.instructions = _ at plan
  change (script.emit burst).complete = true ↔
    script.size + totalLength burst.instructions ≤ 30000 at room
  change (script.emit burst).script.toBytes = script.toBytes ++
    (Script.fitting script.size burst.instructions).flatMap Instruction.encode at bytes
  have total : totalLength burst.instructions = 10 := by
    rw [plan]
    rfl
  refine ⟨within, ?_, ?_⟩
  · rw [Bool.eq_false_iff]
    intro complete
    have enough := room.mp complete
    omega
  · rw [bytes, size, plan]
    rfl

end FlashScript
