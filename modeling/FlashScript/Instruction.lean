/-
Instructions of the loader's script.  A zero byte begins an instruction of two
bytes: two zeros move to the config region, and a zero and `n` skip `n` words.
Any other first byte is the number of words that follow it.
-/

import FlashScript.Text.Hex

namespace FlashScript

/-- How many words one skip passes over; zero is no skip. -/
abbrev SkipCount := { count : UInt8 // count ≠ 0 }

inductive Instruction where
  | enterConfig
  | skip (count : SkipCount)
  /-- Words to store, two bytes each. -/
  | write (words : List UInt8)
  deriving DecidableEq

namespace Instruction

def maxWords : Nat := 255

def skip? (count : UInt8) : Option Instruction :=
  if nonzero : count ≠ 0 then some (.skip ⟨count, nonzero⟩) else none

/-- One to 255 whole words make a write. -/
def write? (words : List UInt8) : Option Instruction :=
  if words.length % 2 = 0 ∧ 1 ≤ words.length / 2 ∧
      words.length / 2 ≤ maxWords then
    some (.write words)
  else none

/-- The instructions that the loader can be given. -/
def Legal : Instruction → Prop
  | .enterConfig => True
  | .skip _ => True
  | .write words =>
      words.length % 2 = 0 ∧ 1 ≤ words.length / 2 ∧
        words.length / 2 ≤ maxWords

instance (instruction : Instruction) : Decidable instruction.Legal :=
  match instruction with
  | .enterConfig => inferInstanceAs (Decidable True)
  | .skip _ => inferInstanceAs (Decidable True)
  | .write _ => inferInstanceAs (Decidable (_ ∧ _))

/-- The count byte of a write that is not legal is taken modulo 256. -/
def encode : Instruction → List UInt8
  | .enterConfig => [0, 0]
  | .skip count => [0, count.val]
  | .write words => UInt8.ofNat (words.length / 2) :: words

def encodedLength : Instruction → Nat
  | .enterConfig => 2
  | .skip _ => 2
  | .write words => 1 + words.length

theorem length_encode (instruction : Instruction) :
    instruction.encode.length = instruction.encodedLength := by
  cases instruction <;> simp [encode, encodedLength, Nat.add_comm]

def decode? : List UInt8 → Option (Instruction × List UInt8)
  | [] => none
  | first :: rest =>
      if first = 0 then
        match rest with
        | [] => none
        | count :: later =>
            if nonzero : count ≠ 0 then some (.skip ⟨count, nonzero⟩, later)
            else some (.enterConfig, later)
      else if (rest.take (2 * first.toNat)).length = 2 * first.toNat then
        some (.write (rest.take (2 * first.toNat)), rest.drop (2 * first.toNat))
      else none

/-- An instruction takes exactly its encoded length off the stream. -/
theorem decode?_length {stream rest : List UInt8} {instruction : Instruction}
    (decoded : decode? stream = some (instruction, rest)) :
    stream.length = instruction.encodedLength + rest.length := by
  unfold decode? at decoded
  split at decoded
  · cases decoded
  · split at decoded
    · split at decoded
      · cases decoded
      · split at decoded
        all_goals
          cases decoded
          simp only [encodedLength, List.length_cons]
          omega
    · split at decoded
      · cases decoded
        simp only [encodedLength, List.length_cons, List.length_take,
          List.length_drop]
        omega
      · cases decoded

theorem encodedLength_pos (instruction : Instruction) :
    0 < instruction.encodedLength := by
  cases instruction <;> simp only [encodedLength] <;> omega

/-- Reading takes a legal instruction off any stream that begins with it. -/
theorem decode?_encode_append (instruction : Instruction)
    (legal : instruction.Legal) (stream : List UInt8) :
    decode? (instruction.encode ++ stream) = some (instruction, stream) := by
  cases instruction with
  | enterConfig => rfl
  | skip count =>
      have nonzero := count.property
      simp only [encode, decode?, List.cons_append, List.nil_append, if_true,
        dif_pos nonzero]
  | write words =>
      obtain ⟨even, positive, bounded⟩ := legal
      simp only [maxWords] at bounded
      have count : (UInt8.ofNat (words.length / 2)).toNat = words.length / 2 := by
        simp only [UInt8.toNat_ofNat']
        omega
      have nonzero : UInt8.ofNat (words.length / 2) ≠ 0 := by
        intro zero
        have numbers := congrArg UInt8.toNat zero
        rw [count] at numbers
        simp only [UInt8.toNat_zero] at numbers
        omega
      have length : 2 * (UInt8.ofNat (words.length / 2)).toNat = words.length := by
        rw [count]
        omega
      simp only [encode, decode?, List.cons_append, if_neg nonzero, length,
        List.take_left, List.drop_left, if_true]

/-- What was read is legal, and writing it gives the bytes back. -/
theorem decode?_sound {stream rest : List UInt8} {instruction : Instruction}
    (decoded : decode? stream = some (instruction, rest)) :
    instruction.Legal ∧ stream = instruction.encode ++ rest := by
  unfold decode? at decoded
  split at decoded
  · cases decoded
  · rename_i first later
    split at decoded
    · rename_i zero
      subst zero
      split at decoded
      · cases decoded
      · split at decoded
        · cases decoded
          exact ⟨trivial, rfl⟩
        · rename_i count later zero
          cases decoded
          have countZero : count = 0 := Decidable.not_not.mp zero
          subst countZero
          exact ⟨trivial, rfl⟩
    · rename_i nonzero
      have bounded := first.toNat_lt
      have positive : 0 < first.toNat := by
        apply Nat.pos_of_ne_zero
        intro zero
        exact nonzero (UInt8.toNat_inj.mp zero)
      split at decoded
      · rename_i complete
        cases decoded
        constructor
        · simp only [Legal, maxWords, complete]
          omega
        · simp only [encode, complete, List.cons_append, List.take_append_drop]
          rw [Nat.mul_div_cancel_left _ (by omega : 0 < 2)]
          simp only [UInt8.ofNat_toNat]
      · cases decoded

def display : Instruction → String
  | .enterConfig => "config"
  | .skip count => s!"skip {count.val.toNat}"
  | .write words =>
      s!"write {words.length / 2} " ++ String.ofList (Hex.encode words)

end Instruction

end FlashScript
