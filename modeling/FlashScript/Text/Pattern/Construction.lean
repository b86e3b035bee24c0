/-
The machines for a pattern: one that reads a text forwards and one that reads
it backwards.  Parts are drafted in a fixed order, because which states of a
set are shared depends on the numbers that they got.
-/

import FlashScript.Text.CharSet
import FlashScript.Text.Pattern.Machine
import Std.Data.HashMap

namespace FlashScript

/-! ### Sequences of octet runs

Every character of a run is written by one octet out of each run of one sequence, and
nothing else is. -/

namespace Utf8Runs

def base : Nat := 64

/-- Sequences for the numbers of a run, as one digit of any size with so many
digits of the base after it. -/
def digitRuns : Nat → Nat → Nat → List (List CharSet.Run)
  | 0, first, last => [[(first, last)]]
  | count + 1, first, last =>
      let unit := base ^ (count + 1)
      let low := first / unit
      let high := last / unit
      let under (digit least most : Nat) : List (List CharSet.Run) :=
        (digitRuns count least most).map (fun later => (digit, digit) :: later)
      if low = high then under low (first % unit) (last % unit)
      else
        let startsWhole := first % unit = 0
        let endsWhole := last % unit + 1 = unit
        let lowest := if startsWhole then low else low + 1
        let highest := if endsWhole then high else high - 1
        (if startsWhole then [] else under low (first % unit) (unit - 1)) ++
          (if lowest ≤ highest then
            [(lowest, highest) :: List.replicate (count + 1) (0, base - 1)]
          else []) ++
          (if endsWhole then [] else under high 0 (last % unit))

/-- Blocks of characters with the same number of octets: how many octets follow
the first one, what marks the first one, and the characters. -/
def blocks : List (Nat × Nat × CharSet.Run) :=
  [(0, 0x00, (0x0, 0x7F)), (1, 0xC0, (0x80, 0x7FF)), (2, 0xE0, (0x800, 0xD7FF)),
    (2, 0xE0, (0xE000, 0xFFFF)), (3, 0xF0, (0x10000, 0x10FFFF))]

def continuationMark : Nat := 0x80

def mark (lead : Nat) : List CharSet.Run → List CharSet.Run
  | [] => []
  | first :: later =>
      (lead + first.1, lead + first.2) ::
        later.map (fun run => (continuationMark + run.1, continuationMark + run.2))

def ofRun (run : CharSet.Run) : List (List CharSet.Run) :=
  blocks.flatMap (fun (following, lead, block) =>
    match CharSet.overlap? run block with
    | some part => (digitRuns following part.1 part.2).map (mark lead)
    | none => [])

def ofRuns (runs : List CharSet.Run) : List (List CharSet.Run) :=
  runs.flatMap ofRun

end Utf8Runs

/-! ### Trees of octet runs

Sequences that begin with the same run share it, if they stand beside each other. -/

inductive OctetTree where
  | done
  /-- A run with what comes after it, and the runs beside it. -/
  | way (run : CharSet.Run) (later beside : OctetTree)

namespace OctetTree

/-- Neighbours with the same first run, and what follows it in each. -/
def groupFirst (sequences : List (List CharSet.Run)) :
    List (CharSet.Run × List (List CharSet.Run)) :=
  sequences.foldr
    (fun sequence groups =>
      match sequence, groups with
      | [], _ => groups
      | run :: later, (first, others) :: groups =>
          if run = first then (first, (later :: others)) :: groups
          else (run, [later]) :: (first, others) :: groups
      | run :: later, [] => [(run, [later])])
    []

/-- The tree of sequences of at most so many runs. -/
def ofSequences : Nat → List (List CharSet.Run) → OctetTree
  | 0, _ => .done
  | depth + 1, sequences =>
      (groupFirst sequences).foldr
        (fun (run, later) beside => .way run (ofSequences depth later) beside)
        .done

end OctetTree

/-! ### Tables with a fixed number of slots

A key has one slot, by a digest of the numbers that it is made of, and only the key
that was put there last is found in a slot; what another key had put there is
forgotten. -/

namespace Digest

def start : UInt64 := 14695981039346656037

def factor : UInt64 := 1099511628211

def absorb (digest : UInt64) (number : Nat) : UInt64 :=
  (digest ^^^ UInt64.ofNat number) * factor

def ofNumbers (numbers : List Nat) : UInt64 :=
  numbers.foldl absorb start

end Digest

structure SlotTable where
  slots : Nat
  held : Std.HashMap Nat (List Nat × Nat)

namespace SlotTable

def empty (slots : Nat) : SlotTable :=
  { slots := slots
    held := Std.HashMap.emptyWithCapacity }

def slot (table : SlotTable) (key : List Nat) : Nat :=
  (Digest.ofNumbers key).toNat % table.slots

def find? (table : SlotTable) (key : List Nat) : Option Nat :=
  match table.held[table.slot key]? with
  | some (other, value) => if other = key then some value else none
  | none => none

def put (table : SlotTable) (key : List Nat) (value : Nat) : SlotTable :=
  let slot := table.slot key
  { table with held := table.held.insert slot (key, value) }

end SlotTable

/-! ### Machines -/

inductive Direction where
  | forwards
  | backwards
  deriving DecidableEq

structure PatternMachine where
  states : Array MachineState
  /-- Where a match begins; what comes before that only passes octets over. -/
  start : Nat
  /-- The room of the machine; no state has more ways on than that. -/
  room : Nat

namespace Drafting

/-! ### Texts and sets -/

def octets (direction : Direction) (text : List Char) : List UInt8 :=
  let octets := (String.ofList text).toUTF8.toList
  match direction with
  | .forwards => octets
  | .backwards => octets.reverse

def addRun (run : CharSet.Run) : Drafting MachinePart :=
  addOne (.octet run unlinked)

def addText (octets : List UInt8) : Drafting MachinePart :=
  chain (octets.map (fun octet => addRun (octet.toNat, octet.toNat)))

/-- Runs that are each one octet. -/
def addRuns (runs : List CharSet.Run) : Drafting MachinePart := do
  let last ← add (.pass unlinked)
  let first ← add (.octets (runs.map (fun run => (run, last))))
  return { first := first, last := last }

/-- How many slots there are for states that were drafted for the same set. -/
def sharedForwards : Nat := 10000

def sharedBackwards : Nat := 1000

/-- A state with ways on, or one that was drafted with the same ways. -/
def addShared (table : SlotTable) (ways : List (CharSet.Run × Nat)) :
    Drafting (Nat × SlotTable) := do
  let key := ways.flatMap (fun (run, next) => [run.1, run.2, next])
  match table.find? key with
  | some number => return (number, table)
  | none =>
      let number ← add (.octets ways)
      return (number, table.put key number)

/-- The ways of a tree; the states behind them are drafted before the state
that has the ways.  Behind a sequence comes the last state. -/
def addTree (last : Nat) :
    OctetTree → SlotTable → Drafting (List (CharSet.Run × Nat) × SlotTable)
  | .done, table => return ([], table)
  | .way run later beside, table => do
      let (inner, table) ← addTree last later table
      let (next, table) ←
        if inner.isEmpty then pure (last, table) else addShared table inner
      let (others, table) ← addTree last beside table
      return ((run, next) :: others, table)

def addSequencesForwards (tree : OctetTree) : Drafting MachinePart := do
  let last ← add (.pass unlinked)
  let (ways, table) ← addTree last tree (SlotTable.empty sharedForwards)
  let (first, _) ← addShared table ways
  return { first := first, last := last }

/-- A sequence of runs read backwards, before what is already there for it. -/
def addSequence :
    Nat → List CharSet.Run → SlotTable → Drafting (Nat × SlotTable)
  | next, [], table => return (next, table)
  | next, run :: later, table => do
      let key := [next, run.1, run.2]
      match table.find? key with
      | some number => addSequence number later table
      | none =>
          let number ← add (.octet run next)
          addSequence number later (table.put key number)

def addEach (fork last : Nat) :
    List (List CharSet.Run) → SlotTable → Drafting Unit
  | [], _ => return ()
  | sequence :: later, table => do
      let (first, table) ← addSequence last sequence table
      link fork first
      addEach fork last later table

/-- Sequences of runs, which share what they begin with. -/
def addSequencesBackwards (sequences : List (List CharSet.Run)) :
    Drafting MachinePart := do
  let fork ← addFork
  let last ← add (.pass unlinked)
  addEach fork last sequences (SlotTable.empty sharedBackwards)
  return { first := fork, last := last }

/-- The octets of a set in the form in which they are drafted.  It is worked
out once for all copies of the set. -/
inductive SetOctets where
  | runs (runs : List CharSet.Run)
  | tree (tree : OctetTree)
  | sequences (sequences : List (List CharSet.Run))

def longestSequence : Nat := 4

def SetOctets.ofSet (direction : Direction) (set : CharSet) : SetOctets :=
  if set.isAscii || set.alphabet = .octets then .runs set.runs
  else
    let sequences := Utf8Runs.ofRuns set.runs
    match direction with
    | .forwards => .tree (OctetTree.ofSequences longestSequence sequences)
    | .backwards => .sequences sequences

def addSet : SetOctets → Drafting MachinePart
  | .runs runs => addRuns runs
  | .tree tree => addSequencesForwards tree
  | .sequences sequences => addSequencesBackwards sequences

/-! ### Words -/

/-- The words that a choice of nothing but texts is between. -/
def words? (direction : Direction) (pattern : Pattern) :
    Option (List (List UInt8)) :=
  match pattern with
  | .choice _ _ =>
      pattern.alternatives.mapM (fun alternative =>
        match alternative with
        | .literal text => some (octets direction text)
        | _ => none)
  | _ => none

/-- Words between those that are empty. -/
def betweenEnds (words : List (List UInt8)) : List (List (List UInt8)) :=
  words.foldr
    (fun word parts =>
      match word, parts with
      | [], _ => [] :: parts
      | word, part :: later => (word :: part) :: later
      | word, [] => [[word]])
    [[]]

/-- Words by their first octets, with what follows it in each word. -/
def byFirst (words : List (List UInt8)) : List (UInt8 × List (List UInt8)) :=
  (words.mergeSort (fun one other => one.headD 0 ≤ other.headD 0)).foldr
    (fun word groups =>
      match word, groups with
      | [], _ => groups
      | octet :: later, (first, others) :: groups =>
          if octet = first then (first, (later :: others)) :: groups
          else (octet, [later]) :: (first, others) :: groups
      | octet :: later, [] => [(octet, [later])])
    []

/-- How often a word ends here.  Ends before all longer words are one end. -/
def endCount (words : List (List UInt8)) : Nat :=
  let later := words.dropWhile List.isEmpty
  (if later.length < words.length then 1 else 0) +
    (later.filter List.isEmpty).length

def addOctets : List (UInt8 × Nat) → Drafting Nat
  | [(octet, next)] => add (.octet (octet.toNat, octet.toNat) next)
  | ways =>
      add (.octets (ways.map (fun (octet, next) =>
        ((octet.toNat, octet.toNat), next))))

/-- The state that words of at most so many octets begin at.  It leads to a
state for the words up to an end, to those after it, and to each end. -/
def addWordsFrom (last : Nat) : Nat → List (List UInt8) → Drafting Nat
  | 0, _ => return last
  | depth + 1, words =>
      if words.all List.isEmpty then return last
      else do
        let parts := (betweenEnds words).filter (fun part => !part.isEmpty)
        let states ← parts.mapM (fun part => do
          addOctets (← (byFirst part).mapM (fun (octet, later) => do
            return (octet, ← addWordsFrom last depth later))))
        let ends := List.replicate (endCount words) last
        add (.fork (states ++ ends).toArray)

def addWords (words : List (List UInt8)) : Drafting MachinePart := do
  let last ← add (.pass unlinked)
  let longest := (words.map List.length).foldl max 0
  let first ← addWordsFrom last (longest + 1) words
  return { first := first, last := last }

/-! ### Patterns -/

/-- A choice between words shares what they begin with. -/
def addChoice (words : Option (List (List UInt8)))
    (parts : List (Drafting MachinePart)) : Drafting MachinePart :=
  match words with
  | some words => addWords words
  | none => choice parts

def addGroup (part : Drafting MachinePart) : Drafting MachinePart := do
  let start ← addPass
  let whole ← followWith start part
  followWith whole addPass

def partsOf (direction : Direction) :
    Pattern → List (Drafting MachinePart)
  | .empty => [addPass]
  | .literal text => [addText (octets direction text)]
  | .one set => [addSet (SetOctets.ofSet direction set)]
  | .look condition => [addOne (.look condition unlinked)]
  | .repetition body least most _ =>
      let part := addChoice (words? direction body) (partsOf direction body)
      let consumes := body.leastLength.any (fun length => 0 < length)
      [repetition part consumes least most]
  | .capture _ body =>
      let part := addChoice (words? direction body) (partsOf direction body)
      match direction with
      | .forwards => [addGroup part]
      | .backwards => [part]
  | .sequence first second =>
      let firstPart :=
        addChoice (words? direction first) (partsOf direction first)
      let secondPart :=
        addChoice (words? direction second) (partsOf direction second)
      match direction with
      | .forwards => [chain [firstPart, secondPart]]
      | .backwards => [chain [secondPart, firstPart]]
  | .choice left right => partsOf direction left ++ partsOf direction right

def addPattern (direction : Direction) (pattern : Pattern) :
    Drafting MachinePart :=
  addChoice (words? direction pattern) (partsOf direction pattern)

/-- What comes before a match: nothing, or any octets. -/
def addLead (anchored : Bool) : Drafting MachinePart :=
  if anchored then addPass
  else anyTimes (addRuns [(0, Alphabet.octets.last)]) true

def addFound : Drafting MachinePart :=
  addOne .found

/-- A whole machine; the number of the state where a match begins. -/
def addWhole (direction : Direction) (pattern : Pattern) : Drafting Nat := do
  let part := addPattern direction pattern
  match direction with
  | .forwards =>
      let lead ← addLead pattern.startsText
      let body ← chain [addGroup part, addFound]
      link lead.last body.first
      return body.first
  | .backwards =>
      let lead ← addLead pattern.endsText
      let body ← chain [part, addFound]
      link lead.last body.first
      return body.first

end Drafting

/-- The machine for a pattern, unless it is too large. -/
def PatternMachine.ofPattern? (direction : Direction) (pattern : Pattern) :
    Option PatternMachine :=
  match (Drafting.addWhole direction pattern).run MachineDraft.empty with
  | none => none
  | some (start, draft) =>
      some
        { states := draft.states
          start := start
          room := draft.room }

end FlashScript
