/-
UTF-8 read byte by byte.  The reader keeps what a begun character still owes
and answers `none` once for every stretch of bytes that cannot be the beginning
of a character, as long as that stretch can be made.  Text is strict when no
stretch fails, and lossy when each failing stretch becomes U+FFFD.
-/

namespace FlashScript.Utf8

/-- A begun character: how many bytes are owed after the next one, the bounds
of the next one, and the bits read so far. -/
structure Begun where
  owedLater : Nat
  lowest : UInt8
  highest : UInt8
  bits : Nat

inductive State where
  | between
  | within (begun : Begun)

/-- What the bytes up to here complete: characters, and `none` for a stretch
that is no character. -/
structure Progress where
  completed : List (Option Char)
  state : State

def owing (owedLater : Nat) (lowest highest : UInt8) (bits : Nat) : Progress :=
  { completed := []
    state := .within
      { owedLater := owedLater
        lowest := lowest
        highest := highest
        bits := bits } }

/-- A byte read where a character may begin.  The bounds of the second byte
rule out overlong forms, surrogates and values above U+10FFFF. -/
def begin (byte : UInt8) : Progress :=
  if byte ≤ 0x7F then
    { completed := [some (Char.ofNat byte.toNat)], state := .between }
  else if 0xC2 ≤ byte ∧ byte ≤ 0xDF then
    owing 0 0x80 0xBF (byte.toNat - 0xC0)
  else if byte = 0xE0 then owing 1 0xA0 0xBF 0x0
  else if byte = 0xED then owing 1 0x80 0x9F 0xD
  else if 0xE1 ≤ byte ∧ byte ≤ 0xEF then
    owing 1 0x80 0xBF (byte.toNat - 0xE0)
  else if byte = 0xF0 then owing 2 0x90 0xBF 0x0
  else if 0xF1 ≤ byte ∧ byte ≤ 0xF3 then
    owing 2 0x80 0xBF (byte.toNat - 0xF0)
  else if byte = 0xF4 then owing 2 0x80 0x8F 0x4
  else { completed := [none], state := .between }

/-- A byte that the begun character cannot take ends it as a failed stretch
and is read again as the beginning of the next character. -/
def advance (state : State) (byte : UInt8) : Progress :=
  match state with
  | .between => begin byte
  | .within begun =>
      if begun.lowest ≤ byte ∧ byte ≤ begun.highest then
        let bits := begun.bits * 64 + byte.toNat % 64
        match begun.owedLater with
        | 0 => { completed := [some (Char.ofNat bits)], state := .between }
        | owedLater + 1 => owing owedLater 0x80 0xBF bits
      else
        let restarted := begin byte
        { restarted with completed := none :: restarted.completed }

def scanFrom : State → List UInt8 → List (Option Char)
  | .between, [] => []
  | .within _, [] => [none]
  | state, byte :: rest =>
      let progress := advance state byte
      progress.completed ++ scanFrom progress.state rest

def scan (bytes : List UInt8) : List (Option Char) :=
  scanFrom .between bytes

def decode? (bytes : List UInt8) : Option String :=
  ((scan bytes).mapM id).map String.ofList

/-- Text in which U+FFFD stands for every stretch that is no character. -/
def decodeLossy (bytes : List UInt8) : String :=
  String.ofList ((scan bytes).map (fun found => found.getD '\uFFFD'))

end FlashScript.Utf8
