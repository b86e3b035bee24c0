/-
Records of a HEX firmware text.  A record line is a colon and two digits for
each byte: payload length, address with its larger half first, type, payload
and a checksum that makes the sum of all bytes zero modulo 256.
-/

import FlashScript.Octets
import FlashScript.Text.Hex
import FlashScript.Text.Characters

namespace FlashScript

/-- The payload is short enough to be counted by one byte. -/
structure Record where
  address : UInt16
  recordType : UInt8
  payload : List UInt8
  payloadFits : payload.length ≤ 255
  deriving DecidableEq

inductive RecordKind where
  | data
  | endOfFile
  | extendedLinearAddress
  deriving DecidableEq

inductive RecordError where
  /-- No colon, or a digit without its partner. -/
  | malformed
  | invalidHexDigit (digit : Char)
  /-- Carries the sum that is not zero. -/
  | checksumMismatch (sum : UInt8)
  | tooShort (bytes : Nat)
  | lengthMismatch (declared : UInt8) (decoded : Nat)
  deriving DecidableEq

namespace RecordError

def message : RecordError → String
  | .malformed => "missing ':' in record"
  | .invalidHexDigit digit =>
      Quoted.character digit ++ ": invalid hex character"
  | .checksumMismatch sum =>
      "record bad checksum (sum " ++ Hex.number 2 sum.toNat ++ ")"
  | .tooShort bytes => s!"record too short ({bytes} bytes)"
  | .lengthMismatch declared decoded =>
      s!"bad record length (declared {declared.toNat} data bytes, " ++
        s!"decoded {decoded} bytes)"

end RecordError

namespace Record

/-- Bytes beside the payload: count, two of the address, type, checksum. -/
def overhead : Nat := 5

def ofParts? (recordType : UInt8) (address : UInt16) (payload : List UInt8) :
    Option Record :=
  if fits : payload.length ≤ 255 then
    some
      { address := address
        recordType := recordType
        payload := payload
        payloadFits := fits }
  else none

def byteCount (record : Record) : UInt8 :=
  UInt8.ofNat record.payload.length

def kind? (record : Record) : Option RecordKind :=
  if record.recordType = 0 then some .data
  else if record.recordType = 1 then some .endOfFile
  else if record.recordType = 4 then some .extendedLinearAddress
  else none

def byteSum (bytes : List UInt8) : UInt8 :=
  bytes.foldr (fun byte sum => byte + sum) 0

/-! ### Writing -/

/-- All bytes but the checksum. -/
def body (record : Record) : List UInt8 :=
  record.byteCount :: Octets.big record.address ++
    record.recordType :: record.payload

def toBytes (record : Record) : List UInt8 :=
  record.body ++ [-(byteSum record.body)]

/-- The digits are written by any writer of hexadecimal text. -/
def encodeWith (write : List UInt8 → List Char) (record : Record) : String :=
  String.ofList (':' :: write record.toBytes)

def encode (record : Record) : String :=
  record.encodeWith Hex.encode

/-! ### Reading -/

/-- The checksum is looked at before the length. -/
def ofBytes (bytes : List UInt8) : Except RecordError Record :=
  if byteSum bytes ≠ 0 then .error (.checksumMismatch (byteSum bytes))
  else
    match bytes with
    | count :: high :: low :: recordType :: first :: later =>
        if counted : count.toNat = later.length then
          .ok
            { address := Octets.join high low
              recordType := recordType
              payload := (first :: later).dropLast
              payloadFits := by
                have bounded := count.toNat_lt
                simp only [List.length_dropLast, List.length_cons]
                omega }
        else .error (.lengthMismatch count (later.length + overhead))
    | short => .error (.tooShort short.length)

/-- A text that cannot be decoded is looked through for the character at
fault; without one, a digit has no partner. -/
def digitError (digits : List Char) : RecordError :=
  match digits.find? (fun digit => !Hex.isDigit digit) with
  | some digit => .invalidHexDigit digit
  | none => .malformed

/-- The digits are decoded as octets of UTF-8, by any decoder of hexadecimal
text.  The line comes without its terminator. -/
def parseWith (decode : List UInt8 → Option (List UInt8)) (line : String) :
    Except RecordError Record :=
  match line.toList with
  | ':' :: digits =>
      match decode (digits.flatMap String.utf8EncodeChar) with
      | some bytes => ofBytes bytes
      | none => .error (digitError digits)
  | _ => .error .malformed

def parse (line : String) : Except RecordError Record :=
  parseWith Hex.decodeOctets? line

end Record

end FlashScript
