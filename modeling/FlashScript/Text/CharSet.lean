/-
Sets of characters, or of octets, as runs of code points in order and apart
from each other.
-/

namespace FlashScript

inductive Alphabet where
  | characters
  | octets
  deriving DecidableEq

namespace Alphabet

def last : Alphabet → Nat
  | .characters => 0x10FFFF
  | .octets => 0xFF

/-- The surrogate code points are no characters and are stepped over. -/
def next (alphabet : Alphabet) (code : Nat) : Nat :=
  if alphabet = .characters && code = 0xD7FF then 0xE000 else code + 1

def previous (alphabet : Alphabet) (code : Nat) : Nat :=
  if alphabet = .characters && code = 0xE000 then 0xD7FF else code - 1

end Alphabet

structure CharSet where
  alphabet : Alphabet
  runs : List (Nat × Nat)
  deriving DecidableEq

namespace CharSet

abbrev Run := Nat × Nat

def run (one other : Nat) : Run :=
  (min one other, max one other)

/-- Runs that overlap or touch become one. -/
def insertRun (added : Run) : List Run → List Run
  | [] => [added]
  | head :: later =>
      if added.2 + 1 < head.1 then added :: head :: later
      else if head.2 + 1 < added.1 then head :: insertRun added later
      else insertRun (min added.1 head.1, max added.2 head.2) later

/-- Runs in any order, from the last one to the first: each is put before all
that begin behind it. -/
def inOrder (runs : List Run) : List Run :=
  (runs.mergeSort (fun one other => one.1 ≤ other.1)).foldr insertRun []

def empty (alphabet : Alphabet) : CharSet :=
  { alphabet := alphabet, runs := [] }

def ofRuns (alphabet : Alphabet) (runs : List Run) : CharSet :=
  { alphabet := alphabet, runs := inOrder runs }

def ofChars (alphabet : Alphabet) (characters : List Char) : CharSet :=
  ofRuns alphabet
    (characters.map (fun character => (character.toNat, character.toNat)))

def everything (alphabet : Alphabet) : CharSet :=
  { alphabet := alphabet, runs := [(0, alphabet.last)] }

def isAscii (set : CharSet) : Bool :=
  set.runs.all (fun run => run.2 ≤ 0x7F)

def union (set other : CharSet) : CharSet :=
  ofRuns set.alphabet (set.runs ++ other.runs)

def overlap? (one other : Run) : Option Run :=
  let first := max one.1 other.1
  let last := min one.2 other.2
  if first ≤ last then some (first, last) else none

def interRuns : List Run → List Run → List Run
  | [], _ => []
  | _, [] => []
  | one :: later, other :: others =>
      (overlap? one other).toList ++
        if one.2 < other.2 then interRuns later (other :: others)
        else interRuns (one :: later) others
termination_by runs others => runs.length + others.length

def inter (set other : CharSet) : CharSet :=
  { set with runs := interRuns set.runs other.runs }

/-- What is left of runs in order outside of others. -/
def diffRuns (alphabet : Alphabet) : List Run → List Run → List Run
  | [], _ => []
  | runs, [] => runs
  | kept :: later, removed :: others =>
      if removed.2 < kept.1 then diffRuns alphabet (kept :: later) others
      else if kept.2 < removed.1 then
        kept :: diffRuns alphabet later (removed :: others)
      else
        (if kept.1 < removed.1 then [run kept.1 (alphabet.previous removed.1)]
          else []) ++
          if removed.2 < kept.2 then
            diffRuns alphabet (run (alphabet.next removed.2) kept.2 :: later)
              others
          else diffRuns alphabet later (removed :: others)
termination_by runs others => runs.length + others.length

def diff (set other : CharSet) : CharSet :=
  { set with runs := diffRuns set.alphabet set.runs other.runs }

/-- The runs between runs, after a run that ends at `before`. -/
def gaps (alphabet : Alphabet) (before : Nat) : List Run → List Run
  | [] =>
      if before < alphabet.last then
        [run (alphabet.next before) alphabet.last]
      else []
  | head :: later =>
      run (alphabet.next before) (alphabet.previous head.1) ::
        gaps alphabet head.2 later

def complement (set : CharSet) : CharSet :=
  match set.runs with
  | [] => everything set.alphabet
  | head :: later =>
      { set with
        runs :=
          (if 0 < head.1 then [run 0 (set.alphabet.previous head.1)] else []) ++
            gaps set.alphabet head.2 later }

/-! ### Letter case -/

def upperLetters : Run := ('A'.toNat, 'Z'.toNat)

def lowerLetters : Run := ('a'.toNat, 'z'.toNat)

def caseDistance : Nat := 'a'.toNat - 'A'.toNat

/-- The letters of the ASCII range that a run lacks for closure. -/
def otherCase (run : Run) : List Run :=
  ((overlap? run lowerLetters).map (fun letters =>
      (letters.1 - caseDistance, letters.2 - caseDistance))).toList ++
    ((overlap? run upperLetters).map (fun letters =>
      (letters.1 + caseDistance, letters.2 + caseDistance))).toList

/-- The set with the other case of every letter of the ASCII range in it. -/
def withOtherCase (set : CharSet) : CharSet :=
  ofRuns set.alphabet (set.runs ++ set.runs.flatMap otherCase)

end CharSet

end FlashScript
