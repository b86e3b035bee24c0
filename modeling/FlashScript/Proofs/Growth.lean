/-
Scripts after any pushes and emissions, those included that found no room.  Of
the instructions that a request brings, the first ones that fit are appended and
the rest are dropped, so that a script only grows, by whole instructions, and
never beyond the capacity of the loader.
-/

import FlashScript.Proofs.Emission

namespace FlashScript

open Instruction (totalLength)

/-- What a script is asked for.  A record without words is an emission of no
burst. -/
inductive ScriptRequest where
  | push (instruction : Instruction)
  | emit (burst : Option Burst)

/-- What a request pushes, one instruction after the other. -/
def ScriptRequest.instructions : ScriptRequest → List Instruction
  | .push instruction => [instruction]
  | .emit none => []
  | .emit (some burst) => burst.instructions

namespace Script

variable {script : Script} {instructions : List Instruction}

/-! ### Instructions that fit -/

/-- The instructions up to the first one without room, after so many bytes. -/
def fitting (size : Nat) : List Instruction → List Instruction
  | [] => []
  | instruction :: later =>
      if size + instruction.encodedLength ≤ capacity then
        instruction :: fitting (size + instruction.encodedLength) later
      else []

theorem size_add_fitting_le {size : Nat} (within : size ≤ capacity)
    (instructions : List Instruction) :
    size + totalLength (fitting size instructions) ≤ capacity := by
  induction instructions generalizing size with
  | nil => exact within
  | cons instruction later inductionHypothesis =>
      rw [fitting]
      split
      · rename_i fits
        have rest := inductionHypothesis fits
        rw [Instruction.totalLength_cons]
        omega
      · exact within

/-- Nothing is pushed after the first instruction that finds no room. -/
theorem fitting_prefix (size : Nat) (instructions : List Instruction) :
    fitting size instructions <+: instructions := by
  induction instructions generalizing size with
  | nil => exact List.prefix_rfl
  | cons instruction later inductionHypothesis =>
      rw [fitting]
      split
      · exact (List.prefix_cons_inj instruction).mpr (inductionHypothesis _)
      · exact List.nil_prefix

theorem script_pushAll (script : Script) (instructions : List Instruction) :
    (script.pushAll instructions).script =
      script.appendAll (fitting script.size instructions) := by
  induction instructions generalizing script with
  | nil => rfl
  | cons instruction later inductionHypothesis =>
      rw [pushAll, push, fitting]
      by_cases fits : script.size + instruction.encodedLength ≤ capacity
      · rw [if_pos (show script.hasRoomFor instruction = true from decide_eq_true fits),
          if_pos fits, Emission.andThen, if_pos rfl, inductionHypothesis, size_append]
        rfl
      · have full : ¬script.hasRoomFor instruction = true := by
          simpa only [hasRoomFor, decide_eq_true_eq] using fits
        rw [if_neg full, if_neg fits]
        rfl

theorem script_push (script : Script) (instruction : Instruction) :
    (script.push instruction).script =
      script.appendAll (fitting script.size [instruction]) := by
  rw [← script_pushAll, pushAll, Emission.andThen]
  split <;> rfl

/-! ### Any requests -/

def serve (script : Script) : ScriptRequest → Script
  | .push instruction => (script.push instruction).script
  | .emit none => script
  | .emit (some burst) => (script.emit burst).script

/-- Every request is made, also after requests that found no room. -/
def serveAll (script : Script) (requests : List ScriptRequest) : Script :=
  requests.foldl serve script

theorem serve_eq_appendAll (script : Script) (request : ScriptRequest) :
    script.serve request =
      script.appendAll (fitting script.size request.instructions) := by
  rcases request with instruction | _ | burst
  · exact script_push script instruction
  · rfl
  · rw [serve, emit_eq_pushAll, script_pushAll]
    rfl

theorem exists_appendAll_of_serve (within : script.size ≤ capacity)
    (request : ScriptRequest) :
    ∃ fitted, script.serve request = script.appendAll fitted ∧
      (script.appendAll fitted).size ≤ capacity := by
  refine ⟨_, serve_eq_appendAll script request, ?_⟩
  rw [size_appendAll]
  exact size_add_fitting_le within request.instructions

/-- Whole instructions have been appended, and no more than fit. -/
theorem exists_appendAll_of_serveAll (within : script.size ≤ capacity)
    (requests : List ScriptRequest) :
    ∃ fitted, script.serveAll requests = script.appendAll fitted ∧
      (script.serveAll requests).size ≤ capacity := by
  induction requests generalizing script with
  | nil => exact ⟨[], rfl, within⟩
  | cons request later inductionHypothesis =>
      obtain ⟨first, served, still⟩ := exists_appendAll_of_serve within request
      obtain ⟨rest, grown, room⟩ := inductionHypothesis (served.symm ▸ still)
      refine ⟨first ++ rest, ?_, room⟩
      rw [appendAll_append, ← served]
      exact grown

theorem exists_serveAll_empty (deviceId : UInt16) (requests : List ScriptRequest) :
    ∃ fitted, (empty deviceId).serveAll requests = (empty deviceId).appendAll fitted ∧
      ((empty deviceId).serveAll requests).size ≤ capacity := by
  apply exists_appendAll_of_serveAll
  change headerSize ≤ capacity
  decide

end Script

end FlashScript
