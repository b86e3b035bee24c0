/-
Text that is decoded without failing.  Bytes of ASCII are the characters they
stand for.  Any other byte leaves a character outside ASCII behind: it is part
of such a character, or of a stretch that U+FFFD stands for.
-/

import FlashScript.Text.Utf8
import FlashScript.Proofs.Digits

namespace FlashScript.Utf8

/-! ### What a begun character can come to -/

namespace Begun

/-- How many values continuation bytes can make, six bits each. -/
def values : Nat → Nat
  | 0 => 1
  | owed + 1 => 64 * values owed

/-- The smallest value that the bytes owed can make of a begun character. -/
def least (begun : Begun) : Nat :=
  (begun.bits * 64 + (begun.lowest.toNat - 0x80)) * values begun.owedLater

/-- First value above those that the bytes owed can make of it. -/
def limit (begun : Begun) : Nat :=
  (begun.bits * 64 + (begun.highest.toNat - 0x80) + 1) * values begun.owedLater

/-- Whatever follows within the bounds, the value is that of a character outside
ASCII. -/
structure Lawful (begun : Begun) : Prop where
  low : 0x80 ≤ begun.lowest.toNat
  high : begun.highest.toNat ≤ 0xBF
  beyondAscii : 128 ≤ begun.least
  valid : begun.limit ≤ 0xD800 ∨ 0xE000 ≤ begun.least ∧ begun.limit ≤ 0x110000

/-- Any continuation byte may come next. -/
def ofBits (owedLater bits : Nat) : Begun :=
  { owedLater := owedLater
    lowest := 0x80
    highest := 0xBF
    bits := bits }

theorem least_ofBits (owedLater bits : Nat) :
    (ofBits owedLater bits).least = bits * values (owedLater + 1) := by
  have none : (0x80 : UInt8).toNat - 0x80 = 0 := rfl
  simp only [least, ofBits, values, none, Nat.add_zero, Nat.mul_assoc]

theorem limit_ofBits (owedLater bits : Nat) :
    (ofBits owedLater bits).limit = (bits + 1) * values (owedLater + 1) := by
  have all : (0xBF : UInt8).toNat - 0x80 = 63 := rfl
  rw [values, ← Nat.mul_assoc, Nat.add_mul]
  simp only [limit, ofBits, all]

variable {begun : Begun} {byte : UInt8}

/-- A byte within the bounds only narrows what the character can come to. -/
theorem Lawful.narrow (lawful : begun.Lawful) {owedLater : Nat}
    (owed : begun.owedLater = owedLater + 1)
    (above : begun.lowest.toNat ≤ byte.toNat) (below : byte.toNat ≤ begun.highest.toNat) :
    (ofBits owedLater (begun.bits * 64 + byte.toNat % 64)).Lawful := by
  have low := lawful.low
  have high := lawful.high
  have raised :
      begun.least ≤ (ofBits owedLater (begun.bits * 64 + byte.toNat % 64)).least := by
    rw [least_ofBits, least, owed]
    apply Nat.mul_le_mul_right
    omega
  have lowered :
      (ofBits owedLater (begun.bits * 64 + byte.toNat % 64)).limit ≤ begun.limit := by
    rw [limit_ofBits, limit, owed]
    apply Nat.mul_le_mul_right
    omega
  exact
    { low := Nat.le_refl _
      high := Nat.le_refl _
      beyondAscii := Nat.le_trans lawful.beyondAscii raised
      valid := lawful.valid.imp (Nat.le_trans lowered) (fun both =>
        ⟨Nat.le_trans both.1 raised, Nat.le_trans lowered both.2⟩) }

theorem Lawful.completed (lawful : begun.Lawful) (owed : begun.owedLater = 0)
    (above : begun.lowest.toNat ≤ byte.toNat) (below : byte.toNat ≤ begun.highest.toNat) :
    128 ≤ (Char.ofNat (begun.bits * 64 + byte.toNat % 64)).toNat := by
  have low := lawful.low
  have high := lawful.high
  have beyondAscii := lawful.beyondAscii
  have valid := lawful.valid
  rw [least, owed, values, Nat.mul_one] at beyondAscii valid
  rw [limit, owed, values, Nat.mul_one] at valid
  have character : (begun.bits * 64 + byte.toNat % 64).isValidChar := by
    unfold Nat.isValidChar
    omega
  rw [Char.ofNat, dif_pos character]
  change 128 ≤ begun.bits * 64 + byte.toNat % 64
  omega

end Begun

/-! ### Bytes outside ASCII -/

/-- U+FFFD stands for what is no character. -/
def Foreign (found : Option Char) : Prop :=
  128 ≤ (found.getD '\uFFFD').toNat

theorem foreign_none : Foreign none :=
  Nat.le_of_ble_eq_true rfl

def State.Lawful : State → Prop
  | .between => True
  | .within begun => begun.Lawful

/-- A character outside ASCII is completed or begun. -/
structure Progress.Foreign (progress : Progress) : Prop where
  lawful : progress.state.Lawful
  shown : (∃ found ∈ progress.completed, Utf8.Foreign found) ∨ progress.state ≠ .between

variable {state : State} {begun : Begun} {byte : UInt8} {bytes : List UInt8}

theorem foreign_owing {owedLater : Nat} {lowest highest : UInt8} {bits : Nat}
    (lawful : Begun.Lawful
      { owedLater := owedLater
        lowest := lowest
        highest := highest
        bits := bits }) :
    (owing owedLater lowest highest bits).Foreign where
  lawful := lawful
  shown := Or.inr nofun

theorem lawful_ofBits {owedLater bits : Nat} (count : Nat)
    (values : Begun.values (owedLater + 1) = count) (beyondAscii : 128 ≤ bits * count)
    (valid : (bits + 1) * count ≤ 0xD800 ∨
      0xE000 ≤ bits * count ∧ (bits + 1) * count ≤ 0x110000) :
    (Begun.ofBits owedLater bits).Lawful where
  low := Nat.le_refl _
  high := Nat.le_refl _
  beyondAscii := by
    rw [Begun.least_ofBits, values]
    exact beyondAscii
  valid := by
    rw [Begun.least_ofBits, Begun.limit_ofBits, values]
    exact valid

theorem begin_of_small (small : byte.toNat < 128) :
    begin byte = { completed := [some (Char.ofUInt8 byte)], state := .between } := by
  have ascii : byte ≤ 0x7F := UInt8.le_iff_toNat_le.mpr (Nat.le_of_lt_succ small)
  rw [begin, if_pos ascii, ← Hex.toNat_ofUInt8, Char.ofNat_toNat]

theorem bounds_iff (least greatest : UInt8) :
    least ≤ byte ∧ byte ≤ greatest ↔
      least.toNat ≤ byte.toNat ∧ byte.toNat ≤ greatest.toNat :=
  and_congr UInt8.le_iff_toNat_le UInt8.le_iff_toNat_le

theorem not_ascii_of_large (large : 128 ≤ byte.toNat) : ¬byte ≤ 0x7F :=
  fun ascii => Nat.not_le_of_lt large (UInt8.le_iff_toNat_le.mp ascii)

theorem foreign_begin (large : 128 ≤ byte.toNat) : (begin byte).Foreign := by
  unfold begin
  rw [if_neg (not_ascii_of_large large)]
  simp only [bounds_iff, ← UInt8.toNat_inj, UInt8.reduceToNat]
  split
  · exact foreign_owing (lawful_ofBits 64 rfl (by omega) (by omega))
  split
  · exact foreign_owing ⟨by decide, by decide, by decide, by decide⟩
  split
  · exact foreign_owing ⟨by decide, by decide, by decide, by decide⟩
  split
  · exact foreign_owing (lawful_ofBits 4096 rfl (by omega) (by omega))
  split
  · exact foreign_owing ⟨by decide, by decide, by decide, by decide⟩
  split
  · exact foreign_owing (lawful_ofBits 262144 rfl (by omega) (by omega))
  split
  · exact foreign_owing ⟨by decide, by decide, by decide, by decide⟩
  · exact ⟨trivial, Or.inl ⟨none, List.mem_singleton_self none, foreign_none⟩⟩

/-- A begun character is completed, carried on or given up, whatever comes. -/
theorem foreign_advance_within (lawful : begun.Lawful) (byte : UInt8) :
    (advance (.within begun) byte).Foreign := by
  rw [advance]
  split
  · rename_i within
    have above := UInt8.le_iff_toNat_le.mp within.1
    have below := UInt8.le_iff_toNat_le.mp within.2
    dsimp only
    split
    · rename_i owed
      exact ⟨trivial, Or.inl ⟨_, List.mem_singleton_self _,
        lawful.completed owed above below⟩⟩
    · rename_i owedLater owed
      exact foreign_owing (lawful.narrow owed above below)
  · refine ⟨?_, Or.inl ⟨none, List.mem_cons_self, foreign_none⟩⟩
    change (begin byte).state.Lawful
    rcases Nat.lt_or_ge byte.toNat 128 with small | large
    · rw [begin_of_small small]
      trivial
    · exact (foreign_begin large).lawful

theorem exists_foreign_of_progress (rest : List UInt8) {progress : Progress}
    (foreign : progress.Foreign)
    (later : progress.state ≠ .between →
      ∃ found ∈ scanFrom progress.state rest, Foreign found) :
    ∃ found ∈ progress.completed ++ scanFrom progress.state rest, Foreign found := by
  rcases foreign.shown with ⟨found, member, large⟩ | begun
  · exact ⟨found, List.mem_append_left _ member, large⟩
  · obtain ⟨found, member, large⟩ := later begun
    exact ⟨found, List.mem_append_right _ member, large⟩

theorem scanFrom_small (small : byte.toNat < 128) (rest : List UInt8) :
    scanFrom .between (byte :: rest) =
      some (Char.ofUInt8 byte) :: scanFrom .between rest := by
  rw [scanFrom, advance, begin_of_small small]
  rfl

/-- A begun character is never lost, and neither is a byte outside ASCII. -/
theorem exists_foreign (lawful : state.Lawful)
    (pending : state ≠ .between ∨ ∃ byte ∈ bytes, 128 ≤ byte.toNat) :
    ∃ found ∈ scanFrom state bytes, Foreign found := by
  induction bytes generalizing state with
  | nil =>
      cases state with
      | between => simp at pending
      | within begun => exact ⟨none, List.mem_singleton_self none, foreign_none⟩
  | cons byte rest inductionHypothesis =>
      cases state with
      | within begun =>
          have foreign := foreign_advance_within lawful byte
          exact exists_foreign_of_progress rest foreign
            (fun begun => inductionHypothesis foreign.lawful (Or.inl begun))
      | between =>
          rcases Nat.lt_or_ge byte.toNat 128 with small | large
          · obtain ⟨other, member, large⟩ := pending.resolve_left (not_not_intro rfl)
            have later : other ∈ rest := by
              rcases List.mem_cons.mp member with rfl | later
              · omega
              · exact later
            obtain ⟨found, member, foreign⟩ :=
              inductionHypothesis lawful (Or.inr ⟨other, later, large⟩)
            rw [scanFrom_small small]
            exact ⟨found, List.mem_cons_of_mem _ member, foreign⟩
          · have foreign := foreign_begin large
            exact exists_foreign_of_progress rest foreign
              (fun begun => inductionHypothesis foreign.lawful (Or.inl begun))

/-! ### Lossy text -/

theorem exists_large_of_byte (member : byte ∈ bytes) (large : 128 ≤ byte.toNat) :
    ∃ character ∈ (decodeLossy bytes).toList, 128 ≤ character.toNat := by
  have lawful : State.between.Lawful := trivial
  obtain ⟨found, scanned, foreign⟩ := exists_foreign lawful (Or.inr ⟨byte, member, large⟩)
  rw [decodeLossy, String.toList_ofList]
  exact ⟨_, List.mem_map_of_mem scanned, foreign⟩

theorem scan_of_ascii (ascii : ∀ byte ∈ bytes, byte.toNat < 128) :
    scan bytes = bytes.map (fun byte => some (Char.ofUInt8 byte)) := by
  induction bytes with
  | nil => rfl
  | cons byte rest inductionHypothesis =>
      obtain ⟨small, others⟩ := List.forall_mem_cons.mp ascii
      rw [scan, scanFrom_small small, List.map_cons]
      exact congrArg (_ :: ·) (inductionHypothesis others)

theorem decodeLossy_of_ascii (ascii : ∀ byte ∈ bytes, byte.toNat < 128) :
    (decodeLossy bytes).toList = bytes.map Char.ofUInt8 := by
  rw [decodeLossy, String.toList_ofList, scan_of_ascii ascii, List.map_map]
  rfl

end FlashScript.Utf8
