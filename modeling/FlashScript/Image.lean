/-
Segments of the loader's executable format: first address, last address and the data
between them, both addresses with their smaller half first.  The executable that
programs a device is a loader template followed by the script as one more segment.  The
script's header is given the first address after the script, which is where the loader
stops reading.
-/

import FlashScript.Script

namespace FlashScript

/-- Both addresses are addresses of data bytes when the segment is built by
`Segment.of?` or read by `Segment.read?`. -/
structure Segment where
  first : UInt16
  last : UInt16
  data : List UInt8
  deriving DecidableEq

namespace Segment

def headerSize : Nat := 4

/-- Data from an address on, if there is any and it stays below `0x10000`. -/
def of? (first : UInt16) (data : List UInt8) : Option Segment :=
  if data.isEmpty ∨ 0x10000 < first.toNat + data.length then none
  else
    some
      { first := first
        last := UInt16.ofNat (first.toNat + data.length - 1)
        data := data }

def size (segment : Segment) : Nat :=
  headerSize + segment.data.length

def toBytes (segment : Segment) : List UInt8 :=
  Octets.little segment.first ++ Octets.little segment.last ++ segment.data

def span (first last : UInt16) : Nat :=
  last.toNat - first.toNat + 1

/-- The data between two addresses, if it is all there. -/
def readData? (first last : UInt16) (bytes : List UInt8) :
    Option (Segment × List UInt8) :=
  if first ≤ last ∧ (bytes.take (span first last)).length = span first last then
    some
      ({ first := first
         last := last
         data := bytes.take (span first last) },
        bytes.drop (span first last))
  else none

/-- The segment at the beginning and the bytes after it. -/
def read? : List UInt8 → Option (Segment × List UInt8)
  | firstLow :: firstHigh :: lastLow :: lastHigh :: rest =>
      readData? (Octets.join firstHigh firstLow)
        (Octets.join lastHigh lastLow) rest
  | _ => none

/-- Data that was read is what `Segment.of?` builds on its address. -/
theorem readData?_sound {first last : UInt16} {bytes rest : List UInt8}
    {segment : Segment}
    (found : readData? first last bytes = some (segment, rest)) :
    segment.first = first ∧ segment.last = last ∧
      of? first segment.data = some segment ∧ bytes = segment.data ++ rest := by
  unfold readData? at found
  split at found
  · rename_i complete
    obtain ⟨ordered, length⟩ := complete
    cases found
    have bounded := last.toNat_lt
    have numbers := UInt16.le_iff_toNat_le.mp ordered
    have admitted :
        ¬((bytes.take (span first last)).isEmpty = true ∨
          0x10000 < first.toNat + (bytes.take (span first last)).length) := by
      rw [List.isEmpty_iff_length_eq_zero, length]
      unfold span
      omega
    have lastAgain :
        UInt16.ofNat (first.toNat + (bytes.take (span first last)).length - 1) =
          last := by
      apply UInt16.toNat_inj.mp
      rw [length]
      unfold span
      simp only [UInt16.toNat_ofNat']
      omega
    refine ⟨rfl, rfl, ?_, (List.take_append_drop _ _).symm⟩
    simp only [of?, if_neg admitted, lastAgain]
  · cases found

/-- What was read is what `Segment.of?` builds, and its bytes come back. -/
theorem read?_sound {bytes rest : List UInt8} {segment : Segment}
    (found : read? bytes = some (segment, rest)) :
    of? segment.first segment.data = some segment ∧
      bytes = segment.toBytes ++ rest := by
  unfold read? at found
  split at found
  · obtain ⟨firstSame, lastSame, built, split⟩ := readData?_sound found
    subst split
    rw [← firstSame] at built
    refine ⟨built, ?_⟩
    simp only [toBytes, firstSame, lastSame, Octets.little,
      Octets.lowByte_join, Octets.highByte_join, List.cons_append,
      List.nil_append]
  · cases found

theorem read?_length {bytes rest : List UInt8} {segment : Segment}
    (found : read? bytes = some (segment, rest)) :
    bytes.length = segment.size + rest.length := by
  rw [(read?_sound found).2]
  simp only [toBytes, Octets.little, size, headerSize, List.length_append,
    List.length_cons, List.length_nil]

/-- Reading takes a built segment off any bytes that begin with it. -/
theorem read?_toBytes_append {first : UInt16} {data : List UInt8}
    {segment : Segment} (built : of? first data = some segment)
    (bytes : List UInt8) :
    read? (segment.toBytes ++ bytes) = some (segment, bytes) := by
  unfold of? at built
  split at built
  · cases built
  · rename_i admitted
    cases built
    have nonempty : 0 < data.length := by
      apply Nat.pos_of_ne_zero
      intro zero
      exact admitted (Or.inl (List.isEmpty_iff_length_eq_zero.mpr zero))
    have below : first.toNat + data.length ≤ 0x10000 :=
      Nat.le_of_not_lt (fun above => admitted (Or.inr above))
    have last :
        (UInt16.ofNat (first.toNat + data.length - 1)).toNat =
          first.toNat + data.length - 1 := by
      simp only [UInt16.toNat_ofNat']
      omega
    have ordered : first ≤ UInt16.ofNat (first.toNat + data.length - 1) := by
      apply UInt16.le_iff_toNat_le.mpr
      rw [last]
      omega
    have spanned :
        span first (UInt16.ofNat (first.toNat + data.length - 1)) =
          data.length := by
      unfold span
      rw [last]
      omega
    simp only [toBytes, Octets.little, List.cons_append, List.nil_append, read?,
      Octets.join_halves, readData?, spanned, List.take_left, List.drop_left,
      ordered, and_self, if_true]

/-- Segments as long as there are whole ones, and the bytes left over. -/
def readAll (bytes : List UInt8) : List Segment × List UInt8 :=
  match _found : read? bytes with
  | none => ([], bytes)
  | some (segment, rest) =>
      let (later, left) := readAll rest
      (segment :: later, left)
termination_by bytes.length
decreasing_by
  have lengths := read?_length _found
  simp only [size, headerSize] at lengths
  omega

end Segment

/-! ### Images -/

inductive ImageError where
  | emptyTemplate
  /-- Carries the first address after the script. -/
  | segmentOverflow (scriptEnd : Nat)
  deriving DecidableEq

def ImageError.message : ImageError → String
  | .emptyTemplate => "loader template is empty"
  | .segmentOverflow scriptEnd =>
      "script segment ends past $FFFF (" ++ Hex.number 1 scriptEnd ++ ")"

namespace Image

/-- Where the loader expects the script. -/
def loadAddress : UInt16 := 0x2C00

def scriptEnd (script : Script) : Nat :=
  loadAddress.toNat + script.size

def scriptSegment? (script : Script) : Option Segment :=
  if scriptEnd script < 0x10000 then
    Segment.of? loadAddress
      { script with scriptEnd := UInt16.ofNat (scriptEnd script) }.toBytes
  else none

def compose (script : Script) (template : List UInt8) :
    Except ImageError (List UInt8) :=
  if template.isEmpty then .error .emptyTemplate
  else
    match scriptSegment? script with
    | some segment => .ok (template ++ segment.toBytes)
    | none => .error (.segmentOverflow (scriptEnd script))

end Image

end FlashScript
