/-
The loader that runs a script on the device.  It keeps one word address, moves
it forward over skipped words and stores the words of each write at successive
addresses.  Nothing here depends on how a script was made.
-/

import FlashScript.Instruction

namespace FlashScript

/-- A program memory word as the two bytes that hold it. -/
structure Word where
  first : UInt8
  second : UInt8
  deriving DecidableEq

/-- An odd last byte makes no word. -/
def Word.ofBytes : List UInt8 → List Word
  | first :: second :: rest =>
      { first := first, second := second } :: ofBytes rest
  | _ => []

structure Store where
  address : Nat
  word : Word
  deriving DecidableEq

def Store.consecutive (address : Nat) : List Word → List Store
  | [] => []
  | word :: later =>
      { address := address, word := word } :: consecutive (address + 1) later

namespace Loader

/-- The address after an instruction that began at an address. -/
def next (configStart address : Nat) : Instruction → Nat
  | .enterConfig => configStart
  | .skip count => address + count.val.toNat
  | .write words => address + (Word.ofBytes words).length

def stores (address : Nat) : Instruction → List Store
  | .write words => Store.consecutive address (Word.ofBytes words)
  | _ => []

/-- The stores of a run, and the address it ends on. -/
structure Trace where
  stores : List Store
  address : Nat
  deriving DecidableEq

def runFrom (configStart address : Nat) : List Instruction → Trace
  | [] => { stores := [], address := address }
  | instruction :: later =>
      let rest := runFrom configStart (next configStart address instruction) later
      { rest with stores := stores address instruction ++ rest.stores }

def run (configStart : Nat) (instructions : List Instruction) : Trace :=
  runFrom configStart 0 instructions

end Loader

end FlashScript
