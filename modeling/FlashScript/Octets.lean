/-
Sixteen-bit numbers as two bytes, smaller half first or larger half first.  A
number and its two halves determine each other.
-/

namespace FlashScript.Octets

def lowByte (number : UInt16) : UInt8 :=
  UInt8.ofNat (number.toNat % 256)

def highByte (number : UInt16) : UInt8 :=
  UInt8.ofNat (number.toNat / 256)

def join (high low : UInt8) : UInt16 :=
  UInt16.ofNat (256 * high.toNat + low.toNat)

def little (number : UInt16) : List UInt8 :=
  [lowByte number, highByte number]

def big (number : UInt16) : List UInt8 :=
  [highByte number, lowByte number]

theorem lowByte_toNat (number : UInt16) :
    (lowByte number).toNat = number.toNat % 256 := by
  simp [lowByte]

theorem highByte_toNat (number : UInt16) :
    (highByte number).toNat = number.toNat / 256 := by
  have bounded := number.toNat_lt
  simp only [highByte, UInt8.toNat_ofNat']
  omega

theorem join_toNat (high low : UInt8) :
    (join high low).toNat = 256 * high.toNat + low.toNat := by
  have highBounded := high.toNat_lt
  have lowBounded := low.toNat_lt
  simp only [join, UInt16.toNat_ofNat']
  omega

theorem join_halves (number : UInt16) :
    join (highByte number) (lowByte number) = number := by
  apply UInt16.toNat_inj.mp
  rw [join_toNat, highByte_toNat, lowByte_toNat]
  omega

theorem toNat_eq_halves (number : UInt16) :
    number.toNat = 256 * (highByte number).toNat + (lowByte number).toNat := by
  rw [highByte_toNat, lowByte_toNat]
  omega

theorem highByte_join (high low : UInt8) : highByte (join high low) = high := by
  have lowBounded := low.toNat_lt
  apply UInt8.toNat_inj.mp
  rw [highByte_toNat, join_toNat]
  omega

theorem lowByte_join (high low : UInt8) : lowByte (join high low) = low := by
  have lowBounded := low.toNat_lt
  apply UInt8.toNat_inj.mp
  rw [lowByte_toNat, join_toNat]
  omega

end FlashScript.Octets
