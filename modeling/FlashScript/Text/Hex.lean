/-
Hexadecimal text: the value of a digit, two digits a byte, and `0x` numbers
padded with zeros.  Reading takes letters of either case; bytes are written
with capital letters and numbers with small ones.
-/

namespace FlashScript.Hex

/-- Digits of either letter case; every other character has no value. -/
def digitValue? (digit : Char) : Option Nat :=
  if '0' ≤ digit ∧ digit ≤ '9' then some (digit.toNat - '0'.toNat)
  else if 'A' ≤ digit ∧ digit ≤ 'F' then some (digit.toNat - 'A'.toNat + 10)
  else if 'a' ≤ digit ∧ digit ≤ 'f' then some (digit.toNat - 'a'.toNat + 10)
  else none

def isDigit (digit : Char) : Bool :=
  (digitValue? digit).isSome

def capitalDigit (value : Nat) : Char :=
  if value < 10 then Char.ofNat ('0'.toNat + value)
  else Char.ofNat ('A'.toNat + (value - 10))

/-- The high digit comes first. -/
def pair (byte : UInt8) : List Char :=
  [capitalDigit (byte.toNat / 16), capitalDigit (byte.toNat % 16)]

def encode (bytes : List UInt8) : List Char :=
  bytes.flatMap pair

/-- Fails on an odd number of characters and on a character that is no digit. -/
def decode? : List Char → Option (List UInt8)
  | [] => some []
  | [_] => none
  | high :: low :: rest =>
      match digitValue? high, digitValue? low, decode? rest with
      | some highValue, some lowValue, some bytes =>
          some (UInt8.ofNat (16 * highValue + lowValue) :: bytes)
      | _, _, _ => none

/-- An octet of a text is a digit only if it is a character of its own. -/
def decodeOctets? (octets : List UInt8) : Option (List UInt8) :=
  decode? (octets.map Char.ofUInt8)

theorem digitValue?_capitalDigit (value : Nat) (small : value < 16) :
    digitValue? (capitalDigit value) = some value := by
  revert value
  decide

/-- Reading takes back what writing produced. -/
theorem decode?_encode (bytes : List UInt8) :
    decode? (encode bytes) = some bytes := by
  induction bytes with
  | nil => rfl
  | cons byte rest inductionHypothesis =>
      have bounded := byte.toNat_lt
      have high := digitValue?_capitalDigit (byte.toNat / 16) (by omega)
      have low := digitValue?_capitalDigit (byte.toNat % 16) (by omega)
      have value : UInt8.ofNat (16 * (byte.toNat / 16) + byte.toNat % 16) = byte := by
        rw [Nat.div_add_mod]
        exact UInt8.ofNat_toNat
      change (match digitValue? (capitalDigit (byte.toNat / 16)),
          digitValue? (capitalDigit (byte.toNat % 16)), decode? (encode rest) with
        | some highValue, some lowValue, some bytes =>
            some (UInt8.ofNat (16 * highValue + lowValue) :: bytes)
        | _, _, _ => none) = some (byte :: rest)
      rw [high, low, inductionHypothesis]
      simp only [value]

/-- A number after `0x` with at least `width` digits. -/
def number (width value : Nat) : String :=
  let digits := Nat.toDigits 16 value
  "0x" ++ String.ofList (List.replicate (width - digits.length) '0' ++ digits)

end FlashScript.Hex
