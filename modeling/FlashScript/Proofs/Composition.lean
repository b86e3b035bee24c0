/-
An image gives back the template and the script that it is composed of.  A
script that has grown within the capacity always has an address after it, so
that only an empty template can be refused; what follows the template is one
segment, and its data are the script with that address in its header.
-/

import FlashScript.Image
import FlashScript.Proofs.Growth

namespace FlashScript

namespace Image

variable {script : Script}

/-- The script with the address after it in its header. -/
def ended (script : Script) : Script :=
  { script with scriptEnd := UInt16.ofNat (scriptEnd script) }

theorem scriptEnd_lt (within : script.size ≤ Script.capacity) :
    scriptEnd script < 0x10000 := by
  rw [Script.capacity] at within
  have load : loadAddress.toNat = 0x2C00 := by decide
  rw [scriptEnd, load]
  omega

def scriptSegment (script : Script) : Segment :=
  { first := loadAddress
    last := UInt16.ofNat (scriptEnd script - 1)
    data := (ended script).toBytes }

theorem of?_ended (within : script.size ≤ Script.capacity) :
    Segment.of? loadAddress (ended script).toBytes = some (scriptSegment script) := by
  have below := scriptEnd_lt within
  have length : (ended script).toBytes.length = script.size := Script.length_toBytes _
  have admitted : ¬((ended script).toBytes.isEmpty = true ∨
      0x10000 < loadAddress.toNat + (ended script).toBytes.length) := by
    rintro (empty | above)
    · cases empty
    · rw [length] at above
      exact Nat.lt_asymm above below
  rw [Segment.of?, if_neg admitted, length]
  rfl

theorem scriptSegment?_of_size_le (within : script.size ≤ Script.capacity) :
    scriptSegment? script = some (scriptSegment script) := by
  rw [scriptSegment?, if_pos (scriptEnd_lt within)]
  exact of?_ended within

theorem compose_nil (script : Script) : compose script [] = .error .emptyTemplate := rfl

theorem compose_of_ne_nil (within : script.size ≤ Script.capacity)
    {template : List UInt8} (filled : template ≠ []) :
    compose script template = .ok (template ++ (scriptSegment script).toBytes) := by
  rw [compose, List.isEmpty_eq_false_iff.mpr filled, if_neg Bool.false_ne_true,
    scriptSegment?_of_size_le within]

theorem last_scriptSegment (within : script.size ≤ Script.capacity) :
    (scriptSegment script).last.toNat = 0x2C00 + script.size - 1 := by
  have below := scriptEnd_lt within
  have same : scriptEnd script = 0x2C00 + script.size := rfl
  rw [scriptSegment, UInt16.toNat_ofNat']
  omega

/-- The address in the header is the one after the segment's last address. -/
theorem toNat_scriptEnd_ended (within : script.size ≤ Script.capacity) :
    (ended script).scriptEnd.toNat = (scriptSegment script).last.toNat + 1 := by
  have below := scriptEnd_lt within
  have same : scriptEnd script = 0x2C00 + script.size := rfl
  have header : 4 ≤ script.size := Nat.le_add_right 4 _
  rw [last_scriptSegment within, ended, UInt16.toNat_ofNat']
  omega

end Image

/-- Whatever a script was asked for, it is composed with any template but an
empty one, and the image gives both of them back: first the template, then one
segment with the script. -/
theorem image_gives_script_back (deviceId : UInt16) (requests : List ScriptRequest)
    (template : List UInt8) :
    let script := (Script.empty deviceId).serveAll requests
    (Image.compose script template = .error .emptyTemplate ↔ template = []) ∧
      (∀ scriptEnd, Image.compose script template ≠ .error (.segmentOverflow scriptEnd)) ∧
      (template ≠ [] →
        ∃ image segment idLow idHigh endLow endHigh,
          Image.compose script template = .ok image ∧
            image.take template.length = template ∧
            Segment.read? (image.drop template.length) = some (segment, []) ∧
            segment.first = 0x2C00 ∧
            segment.last.toNat = 0x2C00 + script.size - 1 ∧
            segment.data.length = script.size ∧
            segment.data =
              idLow :: idHigh :: endLow :: endHigh :: script.opcodes.toList ∧
            idLow.toNat + 256 * idHigh.toNat = deviceId.toNat ∧
            endLow.toNat + 256 * endHigh.toNat = segment.last.toNat + 1) := by
  intro script
  obtain ⟨fitted, grown, within⟩ := Script.exists_serveAll_empty deviceId requests
  have id : script.deviceId = deviceId := by
    change ((Script.empty deviceId).serveAll requests).deviceId = deviceId
    rw [grown, Script.deviceId_appendAll]
    rfl
  refine ⟨?_, ?_, ?_⟩
  · constructor
    · intro refused
      cases template with
      | nil => rfl
      | cons first later =>
          rw [Image.compose_of_ne_nil within (List.cons_ne_nil first later)] at refused
          cases refused
    · rintro rfl
      exact Image.compose_nil script
  · intro scriptEnd overflowed
    cases template with
    | nil => cases overflowed
    | cons first later =>
        rw [Image.compose_of_ne_nil within (List.cons_ne_nil first later)] at overflowed
        cases overflowed
  · intro filled
    refine ⟨_, Image.scriptSegment script, Octets.lowByte script.deviceId,
      Octets.highByte script.deviceId, Octets.lowByte (Image.ended script).scriptEnd,
      Octets.highByte (Image.ended script).scriptEnd,
      Image.compose_of_ne_nil within filled, ?_, ?_, rfl, ?_, ?_, rfl, ?_, ?_⟩
    · exact List.take_left
    · rw [List.drop_left]
      have read := Segment.read?_toBytes_append (Image.of?_ended within) []
      rw [List.append_nil] at read
      exact read
    · exact Image.last_scriptSegment within
    · exact Script.length_toBytes (Image.ended script)
    · rw [Nat.add_comm, ← Octets.toNat_eq_halves, id]
    · rw [Nat.add_comm, ← Octets.toNat_eq_halves, Image.toNat_scriptEnd_ended within]

/-- A write without room is followed by one that fits. -/
theorem image_gives_script_back_after_overflow :
    let requests : List ScriptRequest :=
      [.push (.write (List.replicate 30000 0)), .push (.write [0xAA, 0xBB])]
    ∃ image segment,
      Image.compose ((Script.empty 0x2360).serveAll requests) [0xFF, 0xFF] = .ok image ∧
        image.take 2 = [0xFF, 0xFF] ∧
        Segment.read? (image.drop 2) = some (segment, []) ∧
        segment.first = 0x2C00 ∧ segment.last.toNat = 0x2C06 ∧
        segment.data.drop 4 = [1, 0xAA, 0xBB] := by
  intro requests
  have full : ¬(Script.empty 0x2360).hasRoomFor
      (.write (List.replicate 30000 0)) = true := by
    rw [Script.hasRoomFor, decide_eq_true_eq, Instruction.encodedLength,
      List.length_replicate]
    decide
  have grown : (Script.empty 0x2360).serveAll requests =
      (Script.empty 0x2360).append (.write [0xAA, 0xBB]) := by
    rw [Script.serveAll, List.foldl_cons, Script.serve, Script.push, if_neg full]
    rfl
  obtain ⟨image, segment, idLow, idHigh, endLow, endHigh, composed, front, read, first,
      last, _, data, _⟩ :=
    (image_gives_script_back 0x2360 requests [0xFF, 0xFF]).2.2
      (List.cons_ne_nil 0xFF [0xFF])
  rw [grown] at last data
  refine ⟨image, segment, composed, front, read, first, last, ?_⟩
  rw [data]
  rfl

end FlashScript
