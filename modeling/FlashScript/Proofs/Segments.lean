/-
Segments one after the other.  Both addresses of a segment are addresses of its
data, so that they tell how long it is whatever the data look like; segments
that were written are read back in front of any bytes, and any bytes are the
segments that are read from them and a rest that no segment begins.
-/

import FlashScript.Image

namespace FlashScript

namespace Segment

variable {first : UInt16} {data bytes rest : List UInt8} {segment : Segment}
  {segments : List Segment}

/-! ### Segments that are built -/

theorem of?_eq_some_iff :
    of? first data = some segment ↔
      (data ≠ [] ∧ first.toNat + data.length ≤ 0x10000) ∧
        segment.first = first ∧ segment.data = data ∧
        segment.last.toNat + 1 = first.toNat + data.length := by
  unfold of?
  split
  · rename_i refused
    refine iff_of_false nofun ?_
    rintro ⟨⟨filled, within⟩, _⟩
    rcases refused with empty | above
    · exact filled (List.isEmpty_iff.mp empty)
    · exact Nat.not_lt_of_le within above
  · rename_i admitted
    have filled : data ≠ [] := fun empty =>
      admitted (Or.inl (List.isEmpty_iff.mpr empty))
    have within : first.toNat + data.length ≤ 0x10000 :=
      Nat.le_of_not_lt (fun above => admitted (Or.inr above))
    have positive := List.length_pos_iff.mpr filled
    have last : (UInt16.ofNat (first.toNat + data.length - 1)).toNat =
        first.toNat + data.length - 1 := by
      rw [UInt16.toNat_ofNat']
      omega
    constructor
    · rintro ⟨⟩
      refine ⟨⟨filled, within⟩, rfl, rfl, ?_⟩
      rw [last]
      omega
    · rintro ⟨_, rfl, rfl, ends⟩
      rw [Option.some_inj]
      have lastSame : UInt16.ofNat (segment.first.toNat + segment.data.length - 1) =
          segment.last := by
        apply UInt16.toNat_inj.mp
        rw [last]
        omega
      rw [lastSame]

theorem exists_of?_iff :
    (∃ segment, of? first data = some segment) ↔
      data ≠ [] ∧ first.toNat + data.length ≤ 0x10000 := by
  constructor
  · rintro ⟨segment, built⟩
    exact (of?_eq_some_iff.mp built).1
  · rintro ⟨filled, within⟩
    have positive := List.length_pos_iff.mpr filled
    refine ⟨⟨first, UInt16.ofNat (first.toNat + data.length - 1), data⟩, ?_⟩
    refine of?_eq_some_iff.mpr ⟨⟨filled, within⟩, rfl, rfl, ?_⟩
    rw [UInt16.toNat_ofNat']
    omega

/-- A segment that was built is built of its own address and data. -/
theorem of?_own (built : of? first data = some segment) :
    of? segment.first segment.data = some segment := by
  obtain ⟨_, rfl, rfl, _⟩ := of?_eq_some_iff.mp built
  exact built

/-! ### Reading on -/

theorem readAll_of_none (missing : read? bytes = none) : readAll bytes = ([], bytes) := by
  rw [readAll]
  split
  · rfl
  · rename_i found
    rw [missing] at found
    cases found

theorem readAll_nil : readAll [] = ([], []) :=
  readAll_of_none rfl

theorem readAll_of_some (found : read? bytes = some (segment, rest)) :
    readAll bytes = (segment :: (readAll rest).1, (readAll rest).2) := by
  rw [readAll]
  split
  · rename_i missing
    rw [missing] at found
    cases found
  · rename_i again
    rw [found] at again
    cases again
    rfl

theorem readAll_flatMap_append
    (built : ∀ segment ∈ segments, of? segment.first segment.data = some segment)
    (bytes : List UInt8) :
    readAll (segments.flatMap toBytes ++ bytes) =
      (segments ++ (readAll bytes).1, (readAll bytes).2) := by
  induction segments with
  | nil => rfl
  | cons segment later inductionHypothesis =>
      obtain ⟨own, others⟩ := List.forall_mem_cons.mp built
      rw [List.flatMap_cons, List.append_assoc,
        readAll_of_some (read?_toBytes_append own _), inductionHypothesis others]
      rfl

/-- What is read of any bytes is written as these bytes, up to a rest that does
not begin with a whole segment. -/
structure Covers (bytes : List UInt8) (segments : List Segment) (rest : List UInt8) :
    Prop where
  built : ∀ segment ∈ segments, of? segment.first segment.data = some segment
  written : segments.flatMap toBytes ++ rest = bytes
  ended : read? rest = none

theorem covers_readAll (bytes : List UInt8) :
    Covers bytes (readAll bytes).1 (readAll bytes).2 := by
  induction bytes using readAll.induct with
  | case1 bytes missing =>
      rw [readAll_of_none missing]
      exact ⟨nofun, rfl, missing⟩
  | case2 bytes segment rest found later left same inductionHypothesis =>
      obtain ⟨own, split⟩ := read?_sound found
      rw [readAll_of_some found]
      refine ⟨?_, ?_, inductionHypothesis.ended⟩
      · exact List.forall_mem_cons.mpr ⟨own, inductionHypothesis.built⟩
      · rw [List.flatMap_cons, List.append_assoc, inductionHypothesis.written, split]

end Segment

namespace Image

variable {script : Script} {template image : List UInt8} {segments : List Segment}

theorem compose_ok (composed : compose script template = .ok image) :
    ∃ segment, scriptSegment? script = some segment ∧
      image = template ++ segment.toBytes := by
  unfold compose at composed
  split at composed
  · cases composed
  · split at composed
    · rename_i segment found
      cases composed
      exact ⟨segment, found, rfl⟩
    · cases composed

theorem of?_of_scriptSegment? {segment : Segment}
    (found : scriptSegment? script = some segment) :
    Segment.of? loadAddress
      { script with scriptEnd := UInt16.ofNat (scriptEnd script) }.toBytes =
        some segment := by
  unfold scriptSegment? at found
  split at found
  · exact found
  · cases found

/-- The segments of a template stay in front of the script. -/
theorem readAll_compose (whole : Segment.readAll template = (segments, []))
    (composed : compose script template = .ok image) :
    ∃ segment,
      Segment.of? loadAddress
        { script with scriptEnd := UInt16.ofNat (scriptEnd script) }.toBytes =
          some segment ∧
      Segment.readAll image = (segments ++ [segment], []) := by
  obtain ⟨segment, found, rfl⟩ := compose_ok composed
  have covers := Segment.covers_readAll template
  rw [whole] at covers
  have made := of?_of_scriptSegment? found
  have own := Segment.of?_own made
  have built : ∀ other ∈ segments ++ [segment],
      Segment.of? other.first other.data = some other := by
    intro other member
    rcases List.mem_append.mp member with front | last
    · exact covers.built other front
    · rw [List.mem_singleton.mp last]
      exact own
  have bytes : template ++ segment.toBytes =
      (segments ++ [segment]).flatMap Segment.toBytes ++ [] := by
    have written := covers.written
    rw [List.append_nil] at written
    rw [List.flatMap_append, List.append_nil, written, List.flatMap_singleton]
  refine ⟨segment, made, ?_⟩
  rw [bytes, Segment.readAll_flatMap_append built, Segment.readAll_nil, List.append_nil]

end Image

/-- Data make a segment if there are any and they end within 16-bit addresses.
Segments that are made are read back in front of whatever follows them; reading
any bytes on gives segments that can be made and a rest, which are those bytes
again; and a template of whole segments is followed in an image by one more. -/
theorem segments_are_read_back :
    (∀ (first : UInt16) (data : List UInt8),
      (∃ segment, Segment.of? first data = some segment) ↔
        data ≠ [] ∧ first.toNat + data.length ≤ 0x10000) ∧
    (∀ (segments : List Segment) (bytes : List UInt8),
      (∀ segment ∈ segments, ∃ first data, Segment.of? first data = some segment) →
        Segment.readAll (segments.flatMap Segment.toBytes ++ bytes) =
          (segments ++ (Segment.readAll bytes).1, (Segment.readAll bytes).2)) ∧
    (∀ bytes : List UInt8, ∃ segments rest, Segment.readAll bytes = (segments, rest) ∧
      (∀ segment ∈ segments, Segment.of? segment.first segment.data = some segment) ∧
      segments.flatMap Segment.toBytes ++ rest = bytes ∧
      Segment.read? rest = none) ∧
    ∀ (script : Script) (template image : List UInt8) (segments : List Segment),
      Segment.readAll template = (segments, []) →
      Image.compose script template = .ok image →
        ∃ segment,
          Segment.of? 0x2C00
            { script with scriptEnd := UInt16.ofNat (0x2C00 + script.size) }.toBytes =
              some segment ∧
          Segment.readAll image = (segments ++ [segment], []) := by
  refine ⟨?_, ?_, ?_, ?_⟩
  · intro first data
    exact Segment.exists_of?_iff
  · intro segments bytes built
    apply Segment.readAll_flatMap_append
    intro segment member
    obtain ⟨first, data, made⟩ := built segment member
    exact Segment.of?_own made
  · intro bytes
    have covers := Segment.covers_readAll bytes
    exact ⟨_, _, rfl, covers.built, covers.written, covers.ended⟩
  · intro script template image segments whole composed
    exact Image.readAll_compose whole composed

/-- A segment of one byte at the last address, one whose data look like headers,
and a header whose addresses are the wrong way round. -/
theorem segments_are_read_back_before_reversed_header :
    let last : Segment := { first := 0xFFFF, last := 0xFFFF, data := [7] }
    let other : Segment := { first := 0, last := 4, data := [0, 0, 0, 0, 1] }
    (∀ segment ∈ [last, other],
        ∃ first data, Segment.of? first data = some segment) ∧
      Segment.readAll (last.toBytes ++ other.toBytes ++ [3, 0, 1, 0]) =
        ([last, other], [3, 0, 1, 0]) ∧
      ∃ image segment,
        Image.compose (Script.empty 0x1400) (last.toBytes ++ other.toBytes) = .ok image ∧
          Segment.readAll image = ([last, other, segment], []) := by
  intro last other
  have built : ∀ segment ∈ [last, other],
      ∃ first data, Segment.of? first data = some segment := by
    intro segment member
    refine ⟨segment.first, segment.data, ?_⟩
    revert segment
    decide
  have whole := segments_are_read_back.2.1 [last, other] [] built
  rw [Segment.readAll_nil, List.append_nil] at whole
  have broken := segments_are_read_back.2.1 [last, other] [3, 0, 1, 0] built
  have reversed : Segment.read? [3, 0, 1, 0] = none := by decide
  rw [Segment.readAll_of_none reversed] at broken
  obtain ⟨segment, _, read⟩ := segments_are_read_back.2.2.2 (Script.empty 0x1400)
    (last.toBytes ++ other.toBytes) _ [last, other] whole rfl
  exact ⟨built, broken, _, segment, rfl, read⟩

end FlashScript
