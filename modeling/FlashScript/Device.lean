/-
Microcontrollers.  The geometry of a device's memory is in word addresses: program
memory from address zero, and a config region up to the end of the address space.  A
device of the catalogue is chosen by its number in the menu or by its name, with blanks
around it and letter case left aside.
-/

import FlashScript.Text.Characters

namespace FlashScript

/-- Nothing is assumed about the order of the three bounds. -/
structure Geometry where
  deviceId : UInt16
  programLimit : Nat
  configStart : Nat
  spaceLimit : Nat
  deriving DecidableEq

inductive Device where
  | pic16f690
  | pic12f675
  | pic16f1847
  | pic16f1936
  deriving DecidableEq

namespace Device

def catalogue : List Device :=
  [.pic16f690, .pic12f675, .pic16f1847, .pic16f1936]

def ordinal : Device → Nat
  | .pic16f690 => 1
  | .pic12f675 => 2
  | .pic16f1847 => 3
  | .pic16f1936 => 4

def name : Device → String
  | .pic16f690 => "PIC16F690"
  | .pic12f675 => "PIC12F675"
  | .pic16f1847 => "PIC16F1847"
  | .pic16f1936 => "PIC16F1936"

def symbol : Device → String
  | .pic16f690 => "Pic16F690"
  | .pic12f675 => "Pic12F675"
  | .pic16f1847 => "Pic16F1847"
  | .pic16f1936 => "Pic16F1936"

/-- The mid-range parts have their config region at `0x2000`, the enhanced
mid-range parts at `0x8000`. -/
def geometry : Device → Geometry
  | .pic16f690 =>
      { deviceId := 0x1400
        programLimit := 0x1000
        configStart := 0x2000
        spaceLimit := 0x2008 }
  | .pic12f675 =>
      { deviceId := 0x0FC0
        programLimit := 0x0400
        configStart := 0x2000
        spaceLimit := 0x2008 }
  | .pic16f1847 =>
      { deviceId := 0x1480
        programLimit := 0x2000
        configStart := 0x8000
        spaceLimit := 0x8009 }
  | .pic16f1936 =>
      { deviceId := 0x2360
        programLimit := 0x2000
        configStart := 0x8000
        spaceLimit := 0x8009 }

def menuLine (device : Device) : String :=
  toString device.ordinal ++ ": " ++ device.name

/-! ### Choosing a device -/

def ofOrdinal? (number : Nat) : Option Device :=
  catalogue.find? (fun device => device.ordinal = number)

/-- Letters of the ASCII range are equal in either case. -/
def hasName (text : List Char) (device : Device) : Bool :=
  text.map Char.toLower = device.name.toList.map Char.toLower

def ofTrimmedName? (text : List Char) : Option Device :=
  catalogue.find? (hasName text)

def ofName? (text : String) : Option Device :=
  ofTrimmedName? (Blank.trim text.toList)

def beyondMenu : Nat := 256

/-- The value of decimal digits.  All values above the menu are one value, so
that any number of digits is read in one pass over them. -/
def digitsValue (digits : List Char) : Nat :=
  digits.foldl
    (fun value digit =>
      min beyondMenu (10 * value + (digit.toNat - '0'.toNat))) 0

/-- Decimal digits of any number, after a plus sign or without it. -/
def numeral? (text : List Char) : Option Nat :=
  let digits :=
    match text with
    | '+' :: digits => digits
    | digits => digits
  if digits ≠ [] ∧ digits.all Char.isDigit then some (digitsValue digits)
  else none

/-- Text that is a numeral names a device by its number only. -/
def ofChoice? (text : String) : Option Device :=
  let trimmed := Blank.trim text.toList
  match numeral? trimmed with
  | some number => ofOrdinal? number
  | none => ofTrimmedName? trimmed

def unknownMessage (text : String) : String :=
  "unknown device '" ++ text ++ "', expected one of: " ++
    String.intercalate ", " (catalogue.map name)

end Device

end FlashScript
