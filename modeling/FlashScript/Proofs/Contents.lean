/-
What a script holds after anything that was asked of it.  Its opcodes are read
back as the instructions that were pushed into it, those included that an
emission pushed before it found no room, and a line fed to a compilation is one
such request.
-/

import FlashScript.Proofs.Feeding
import FlashScript.Proofs.Growth

namespace FlashScript

/-! ### Storing an instruction in parts -/

/-- The count of a write and its words are stored one after the other. -/
def Instruction.parts : Instruction → List (List UInt8)
  | .write words => [[UInt8.ofNat (words.length / 2)], words]
  | other => [other.encode]

namespace Script

variable {script : Script} {deviceId : UInt16} {instruction : Instruction}
  {instructions : List Instruction} {request : ScriptRequest}
  {requests : List ScriptRequest}

/-- Bytes are stored whole or not at all. -/
def put (script : Script) (bytes : List UInt8) : Emission :=
  if script.size + bytes.length ≤ capacity then
    { script := { script with opcodes := script.opcodes ++ bytes }
      complete := true }
  else { script := script, complete := false }

def putAll (script : Script) : List (List UInt8) → Emission
  | [] => { script := script, complete := true }
  | bytes :: later => (script.put bytes).andThen (fun longer => longer.putAll later)

def pushInParts (script : Script) (instruction : Instruction) : Emission :=
  if script.hasRoomFor instruction then script.putAll instruction.parts
  else { script := script, complete := false }

theorem putAll_of_room {parts : List (List UInt8)}
    (room : script.size + parts.flatten.length ≤ capacity) :
    script.putAll parts =
      { script := { script with opcodes := script.opcodes ++ parts.flatten }
        complete := true } := by
  induction parts generalizing script with
  | nil => simp [putAll]
  | cons bytes later inductionHypothesis =>
      rw [List.flatten_cons, List.length_append] at room
      have fits : script.size + bytes.length ≤ capacity := by omega
      have joined : script.opcodes ++ (bytes ++ later.flatten) =
          script.opcodes ++ bytes ++ later.flatten := by
        apply Array.toList_inj.mp
        simp
      rw [putAll, put, if_pos fits, Emission.andThen, if_pos rfl,
        inductionHypothesis, List.flatten_cons, joined]
      rw [size, ← Array.length_toList] at room ⊢
      simp only [Array.toList_appendList, List.length_append]
      omega

theorem flatten_parts (instruction : Instruction) :
    instruction.parts.flatten = instruction.encode := by
  cases instruction <;> simp [Instruction.parts, Instruction.encode]

/-- With room for the whole instruction no part of it is refused. -/
theorem pushInParts_eq_push (script : Script) (instruction : Instruction) :
    script.pushInParts instruction = script.push instruction := by
  unfold pushInParts push
  by_cases fits : script.hasRoomFor instruction = true
  · have room : script.size + instruction.parts.flatten.length ≤ capacity := by
      rw [flatten_parts, Instruction.length_encode]
      exact of_decide_eq_true fits
    rw [if_pos fits, if_pos fits, putAll_of_room room, flatten_parts]
    rfl
  · rw [if_neg fits, if_neg fits]

/-! ### Instructions that were pushed -/

/-- The instructions that are pushed in turn, up to the first one without room. -/
def pushed (script : Script) : List Instruction → List Instruction
  | [] => []
  | instruction :: later =>
      if (script.push instruction).complete then
        instruction :: (script.push instruction).script.pushed later
      else []

/-- All that requests have pushed, also those that found no room for the rest. -/
def pushedBy (script : Script) : List ScriptRequest → List Instruction
  | [] => []
  | request :: later =>
      script.pushed request.instructions ++ (script.serve request).pushedBy later

theorem pushed_eq_fitting (script : Script) (instructions : List Instruction) :
    script.pushed instructions = fitting script.size instructions := by
  induction instructions generalizing script with
  | nil => rfl
  | cons instruction later inductionHypothesis =>
      rw [pushed, fitting, push]
      by_cases fits : script.size + instruction.encodedLength ≤ capacity
      · have room : script.hasRoomFor instruction = true := decide_eq_true fits
        rw [if_pos room, if_pos rfl, if_pos fits, inductionHypothesis, size_append]
      · have full : ¬script.hasRoomFor instruction = true := by
          simpa only [hasRoomFor, decide_eq_true_eq] using fits
        rw [if_neg full, if_neg Bool.false_ne_true, if_neg fits]

theorem pushed_prefix (script : Script) (instructions : List Instruction) :
    script.pushed instructions <+: instructions := by
  rw [pushed_eq_fitting]
  exact fitting_prefix script.size instructions

theorem serve_eq_appendAll_pushed (script : Script) (request : ScriptRequest) :
    script.serve request =
      script.appendAll (script.pushed request.instructions) := by
  rw [serve_eq_appendAll, pushed_eq_fitting]

end Script

/-! ### Legal requests -/

namespace ScriptRequest

/-- A push of a legal instruction, or an emission of whole words. -/
def Legal : ScriptRequest → Prop
  | .push instruction => instruction.Legal
  | .emit none => True
  | .emit (some burst) => burst.words.length % 2 = 0

theorem Legal.instructions {request : ScriptRequest} (legal : request.Legal) :
    ∀ instruction ∈ request.instructions, instruction.Legal := by
  rcases request with pushed | _ | burst
  · exact List.forall_mem_singleton.mpr legal
  · exact nofun
  · exact Burst.legal_instructions legal

end ScriptRequest

namespace Script

variable {script : Script} {deviceId : UInt16} {instructions : List Instruction}
  {requests : List ScriptRequest}

theorem Lists.serve {request : ScriptRequest} (lists : script.Lists instructions)
    (legal : request.Legal) :
    (script.serve request).Lists
      (instructions ++ script.pushed request.instructions) := by
  rw [serve_eq_appendAll_pushed]
  apply lists.appendAll
  intro instruction member
  exact legal.instructions instruction ((script.pushed_prefix _).mem member)

theorem Lists.serveAll (lists : script.Lists instructions)
    (legal : ∀ request ∈ requests, request.Legal) :
    (script.serveAll requests).Lists (instructions ++ script.pushedBy requests) := by
  induction requests generalizing script instructions with
  | nil =>
      rw [pushedBy, List.append_nil]
      exact lists
  | cons request later inductionHypothesis =>
      rcases List.forall_mem_cons.mp legal with ⟨first, rest⟩
      rw [pushedBy, ← List.append_assoc]
      exact inductionHypothesis (lists.serve first) rest

/-! ### The bytes of a script -/

/-- The bytes are a header of the device with no end in it, and then what is read
as these instructions and nothing else. -/
structure Holds (script : Script) (deviceId : UInt16)
    (instructions : List Instruction) : Prop where
  within : script.toBytes.length ≤ 30000
  header : script.toBytes.take 4 = Octets.little deviceId ++ [0, 0]
  reads : (StreamReader.start (script.toBytes.drop 4)).items =
    instructions.map .ok

theorem holds_serveAll (legal : ∀ request ∈ requests, request.Legal) :
    ((empty deviceId).serveAll requests).Holds deviceId
      ((empty deviceId).pushedBy requests) := by
  have lists := (lists_empty deviceId).serveAll legal
  rcases exists_serveAll_empty deviceId requests with ⟨fitted, grown, within⟩
  generalize (empty deviceId).serveAll requests = script at lists grown within ⊢
  constructor
  · rw [length_toBytes]
    exact within
  · have front : (empty deviceId).toBytes = Octets.little deviceId ++ [0, 0] := by
      rw [toBytes, show (empty deviceId).scriptEnd = 0 from rfl,
        show Octets.little 0 = [0, 0] by decide]
      rfl
    rw [grown, toBytes_appendAll, front]
    rfl
  · change (StreamReader.start script.opcodes.toList).items = _
    have read := StreamReader.items_encode_append lists.legal 0 []
    rw [List.append_nil, StreamReader.items_nil, List.append_nil] at read
    rw [lists.written]
    exact read

theorem toBytes_prefix_serve (script : Script) (request : ScriptRequest) :
    script.toBytes <+: (script.serve request).toBytes := by
  rw [serve_eq_appendAll, toBytes_appendAll]
  exact List.prefix_append _ _

theorem push_of_incomplete {instruction : Instruction}
    (incomplete : (script.push instruction).complete = false) :
    (script.push instruction).script = script := by
  unfold push at incomplete ⊢
  split at incomplete
  · cases incomplete
  · rename_i full
    rw [if_neg full]

end Script

/-! ### Lines as requests -/

namespace Compilation

variable {compilation : Compilation}

/-- A record that is refused asks for nothing. -/
def requestOfRecord (compilation : Compilation) (record : Record) : ScriptRequest :=
  match (compilation.cursor.place compilation.geometry record).2 with
  | .error _ => .emit none
  | .ok burst => .emit burst

def requestOf (compilation : Compilation) (line : String) : ScriptRequest :=
  match Record.parse line with
  | .error _ => .emit none
  | .ok record => compilation.requestOfRecord record

/-- What lines ask for, one after the other, those after failed ones included. -/
def requests (compilation : Compilation) : List String → List ScriptRequest
  | [] => []
  | line :: later =>
      compilation.requestOf line :: (compilation.feedLine line).1.requests later

theorem script_feedRecord (compilation : Compilation) (record : Record) :
    (compilation.feedRecord record).1.script =
      compilation.script.serve (compilation.requestOfRecord record) := by
  unfold feedRecord requestOfRecord
  cases placed : compilation.cursor.place compilation.geometry record with
  | mk cursor outcome =>
      rcases outcome with error | _ | burst
      · rfl
      · rfl
      · rfl

theorem script_feedLine (compilation : Compilation) (line : String) :
    (compilation.feedLine line).1.script =
      compilation.script.serve (compilation.requestOf line) := by
  unfold requestOf
  cases parsed : Record.parse line with
  | error error =>
      by_cases empty : line.isEmpty = true
      · rw [feedLine_of_empty empty]
        rfl
      · rw [feedLine_of_error (Bool.eq_false_iff.mpr empty) parsed]
        rfl
  | ok record =>
      rw [feedLine_of_record parsed]
      exact compilation.count.script_feedRecord record

theorem legal_requestOfRecord (compilation : Compilation) (record : Record) :
    (compilation.requestOfRecord record).Legal := by
  have came := Cursor.place_outcome compilation.geometry compilation.cursor record
  unfold requestOfRecord
  generalize (compilation.cursor.place compilation.geometry record).1 = next at came
  generalize (compilation.cursor.place compilation.geometry record).2 = outcome at came ⊢
  cases came with
  | admitted admits =>
      change (compilation.burstOf record).words.length % 2 = 0
      rw [burstOf, Cursor.length_words_burstOf]
      exact Nat.mul_mod_right 2 _
  | ended endOfFile => trivial
  | selected extended still half => trivial
  | refused filled => trivial
  | empty => trivial

theorem legal_requests (compilation : Compilation) (lines : List String) :
    ∀ request ∈ compilation.requests lines, request.Legal := by
  induction lines generalizing compilation with
  | nil => exact nofun
  | cons line later inductionHypothesis =>
      rw [requests, List.forall_mem_cons]
      refine ⟨?_, inductionHypothesis (compilation.feedLine line).1⟩
      unfold requestOf
      split
      · trivial
      · exact compilation.legal_requestOfRecord _

theorem script_feedThrough (compilation : Compilation) (lines : List String) :
    (compilation.feedThrough lines).script =
      compilation.script.serveAll (compilation.requests lines) := by
  induction lines generalizing compilation with
  | nil => rfl
  | cons line later inductionHypothesis =>
      rw [feedThrough_cons, inductionHypothesis, script_feedLine]
      rfl

end Compilation

/-- After any requests, those that found no room included, a script holds what
was pushed into it and nothing else, whether it is asked directly or by the
lines of a compilation.  It keeps its bytes whatever it is asked for next, and
storing an instruction part by part stores all of it or nothing. -/
theorem script_holds_what_was_pushed :
    (∀ (deviceId : UInt16) (requests : List ScriptRequest),
      (∀ request ∈ requests, request.Legal) →
        let script := (Script.empty deviceId).serveAll requests
        script.Holds deviceId ((Script.empty deviceId).pushedBy requests) ∧
          (∀ request, script.toBytes <+: (script.serve request).toBytes) ∧
          ∀ instruction,
            script.pushInParts instruction = script.push instruction ∧
              ((script.push instruction).complete = false →
                (script.push instruction).script = script)) ∧
    ∀ (geometry : Geometry) (lines : List String),
      let start := Compilation.startOn geometry
      let reached := start.feedThrough lines
      reached.script.Holds geometry.deviceId
          (start.script.pushedBy (start.requests lines)) ∧
        ∀ line, reached.script.toBytes <+: (reached.feedLine line).1.script.toBytes := by
  constructor
  · intro deviceId requests legal script
    refine ⟨Script.holds_serveAll legal, script.toBytes_prefix_serve, ?_⟩
    intro instruction
    exact ⟨script.pushInParts_eq_push instruction, Script.push_of_incomplete⟩
  · intro geometry lines start reached
    constructor
    · rw [Compilation.script_feedThrough]
      exact Script.holds_serveAll (start.legal_requests lines)
    · intro line
      rw [Compilation.script_feedLine]
      exact reached.script.toBytes_prefix_serve _

/-- An emission that finds room for its first instructions only, and a push that
fits after it. -/
theorem script_holds_what_was_pushed_before_overflow :
    let burst : Burst :=
      { entersConfig := true
        gap := 300
        words := List.replicate 30000 7 }
    let requests : List ScriptRequest :=
      [.emit (some burst), .push (.skip ⟨9, by decide⟩)]
    (∀ request ∈ requests, request.Legal) ∧
      ((Script.empty 0x1400).emit burst).complete = false ∧
      ((Script.empty 0x1400).serveAll requests).Holds 0x1400
        ((Script.empty 0x1400).pushedBy requests) := by
  intro burst requests
  have legal : ∀ request ∈ requests, request.Legal := by
    intro request member
    rcases List.mem_cons.mp member with first | rest
    · subst first
      change (List.replicate 30000 (7 : UInt8)).length % 2 = 0
      rw [List.length_replicate]
    · rw [List.mem_singleton.mp rest]
      trivial
  have overflowed : ((Script.empty 0x1400).emit burst).complete = false := by
    rw [Bool.eq_false_iff]
    intro complete
    rw [Script.emit_eq_pushAll] at complete
    have size := congrArg Script.size (Script.pushAll_of_complete complete)
    have room := Script.size_add_fitting_le
      (show (Script.empty 0x1400).size ≤ Script.capacity by decide) burst.instructions
    rw [Script.script_pushAll, Script.size_appendAll, Script.size_appendAll,
      Burst.totalLength_instructions, List.length_replicate] at size
    rw [Script.capacity] at room
    omega
  exact ⟨legal, overflowed, (script_holds_what_was_pushed.1 0x1400 requests legal).1⟩

end FlashScript
