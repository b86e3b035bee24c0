/-
Looking for a pattern in texts, with its machine, in one pass over the octets.
A search follows all ways through the machine at once.  It remembers where it
got from where, so that no way is followed twice while the memory lasts.  A text
is read as a pattern, its meaning is worked out, and the machines for it are made.
-/

import FlashScript.Text.Pattern.Construction
import FlashScript.Text.Pattern.Meaning
import FlashScript.Text.Pattern.Reader
import FlashScript.Text.Pattern.Words
import Std.Data.HashMap

namespace FlashScript

/-- A gap of a text: the octets before it and after it, if there are any. -/
structure Gap where
  before : Option UInt8
  after : Option UInt8

namespace Gap

def lineFeed : UInt8 := 0x0A

def carriageReturn : UInt8 := 0x0D

def isWord (octet : UInt8) : Bool :=
  let character := Char.ofNat octet.toNat
  character.isAlphanum || character = '_'

def wordBefore (gap : Gap) : Bool :=
  gap.before.any isWord

def wordAfter (gap : Gap) : Bool :=
  gap.after.any isWord

/-- Whether an octet is a later one of its character. -/
def continues (octet : UInt8) : Bool :=
  0x80 ≤ octet && octet ≤ 0xBF

def isBetweenCharacters (gap : Gap) : Bool :=
  !gap.after.any continues

end Gap

def WordEdge.holds (gap : Gap) : WordEdge → Bool
  | .either => gap.wordBefore != gap.wordAfter
  | .neither => gap.wordBefore == gap.wordAfter
  | .start => !gap.wordBefore && gap.wordAfter
  | .stop => gap.wordBefore && !gap.wordAfter
  | .startHalf => !gap.wordBefore
  | .stopHalf => !gap.wordAfter

/-- No line begins or ends between a carriage return and a line feed. -/
def Look.holds (gap : Gap) : Look → Bool
  | .textStart => gap.before.isNone
  | .textEnd => gap.after.isNone
  | .lineStart => gap.before.all (fun octet => octet = Gap.lineFeed)
  | .lineEnd => gap.after.all (fun octet => octet = Gap.lineFeed)
  | .anyLineStart =>
      gap.before.all (fun octet =>
        octet = Gap.lineFeed ||
          (octet = Gap.carriageReturn && gap.after ≠ some Gap.lineFeed))
  | .anyLineEnd =>
      gap.after.all (fun octet =>
        octet = Gap.carriageReturn ||
          (octet = Gap.lineFeed && gap.before ≠ some Gap.carriageReturn))
  | .word edge _ => edge.holds gap

/-- Where a search is between two octets. -/
structure SearchPoint where
  /-- The octet before, if a condition may depend on it. -/
  before : Option UInt8
  /-- The states that ways through the machine have come to. -/
  reached : List Nat
  deriving BEq, Hashable

inductive SearchStep where
  | found
  | goesTo (point : Nat)

structure PatternSearch where
  machine : PatternMachine
  looks : Bool
  /-- The last turn in which each state was visited. -/
  visits : Array Nat
  turn : Nat
  points : Array SearchPoint
  numbers : Std.HashMap SearchPoint Nat
  steps : Std.HashMap Nat SearchStep
  remembered : Nat

namespace PatternSearch

def ofMachine (machine : PatternMachine) (looks : Bool) : PatternSearch :=
  { machine := machine
    looks := looks
    visits := Array.replicate machine.states.size 0
    turn := 0
    points := #[]
    numbers := Std.HashMap.emptyWithCapacity
    steps := Std.HashMap.emptyWithCapacity
    remembered := 0 }

/-- States that were visited in one turn, and where octets led from them. -/
structure Spreading where
  visits : Array Nat
  reached : List Nat
  found : Bool

/-- The end of a text is one more octet to a search. -/
def octetCode (after : Option UInt8) : Nat :=
  match after with
  | some octet => octet.toNat
  | none => 256

def addWay (code : Nat) (reached : List Nat) :
    List (CharSet.Run × Nat) → List Nat
  | [] => reached
  | ((first, last), next) :: later =>
      if first ≤ code && code ≤ last then next :: reached
      else addWay code reached later

/-- Visits the waiting states and all that they lead to without an octet. -/
def spread (machine : PatternMachine) (gap : Gap) (code turn : Nat) :
    Nat → List Nat → Array Nat → List Nat → Spreading
  | 0, _, visits, reached =>
      { visits := visits, reached := reached, found := false }
  | _ + 1, [], visits, reached =>
      { visits := visits, reached := reached, found := false }
  | fuel + 1, number :: waiting, visits, reached =>
      if visits.getD number turn = turn then
        spread machine gap code turn fuel waiting visits reached
      else
        let visits := visits.setIfInBounds number turn
        match machine.states.getD number (.fork #[]) with
        | .pass next =>
            spread machine gap code turn fuel (next :: waiting) visits reached
        | .look condition next =>
            if condition.holds gap then
              spread machine gap code turn fuel (next :: waiting) visits reached
            else spread machine gap code turn fuel waiting visits reached
        | .octet run next =>
            spread machine gap code turn fuel waiting visits
              (addWay code reached [(run, next)])
        | .octets ways =>
            spread machine gap code turn fuel waiting visits
              (addWay code reached ways)
        | .fork ways =>
            spread machine gap code turn fuel
              (ways.foldr (fun next waiting => next :: waiting) waiting) visits
              reached
        | .found => { visits := visits, reached := reached, found := true }

def memoryLimit : Nat := 1000000

def forget (search : PatternSearch) : PatternSearch :=
  { search with
    points := #[]
    numbers := Std.HashMap.emptyWithCapacity
    steps := Std.HashMap.emptyWithCapacity
    remembered := 0 }

/-- The number of a point, which is new if it is not known. -/
def numberOf (search : PatternSearch) (point : SearchPoint) :
    Nat × PatternSearch :=
  match search.numbers[point]? with
  | some number => (number, search)
  | none =>
      let number := search.points.size
      (number,
        { search with
          points := search.points.push point
          numbers := search.numbers.insert point number
          remembered := search.remembered + point.reached.length + 1 })

/-- Attempts begin at every gap between characters.  Every state but the first
one is visited because of a way to it, so that the room of the machine is
enough for all visits. -/
def follow (search : PatternSearch) (point : SearchPoint)
    (after : Option UInt8) : SearchStep × PatternSearch :=
  let gap : Gap := { before := point.before, after := after }
  let waiting :=
    if gap.isBetweenCharacters then search.machine.start :: point.reached
    else point.reached
  let { machine, looks, visits, turn, points, numbers, steps, remembered } := search
  let turn := turn + 1
  let { visits, reached, found } :=
    spread machine gap (octetCode after) turn (waiting.length + machine.room + 1)
      waiting visits []
  let search : PatternSearch :=
    { machine, looks, visits, turn, points, numbers, steps, remembered }
  if found then (.found, search)
  else
    let before := if looks then after else none
    let (number, search) := search.numberOf { before := before, reached := reached }
    (.goesTo number, search)

def octetCodes : Nat := 257

def stepKey (number : Nat) (after : Option UInt8) : Nat :=
  number * octetCodes + octetCode after

/-- From one gap to the next.  When the memory is full it begins anew. -/
def step (search : PatternSearch) (number : Nat) (after : Option UInt8) :
    SearchStep × PatternSearch :=
  let key := stepKey number after
  match search.steps[key]? with
  | some known => (known, search)
  | none =>
      let point := search.points.getD number { before := none, reached := [] }
      if search.remembered < memoryLimit then
        let (next, search) := search.follow point after
        (next,
          { search with
            steps := search.steps.insert key next
            remembered := search.remembered + 1 })
      else search.forget.follow point after

def foundFrom (number : Nat) : List UInt8 → PatternSearch → Bool × PatternSearch
  | [], search =>
      match search.step number none with
      | (.found, search) => (true, search)
      | (.goesTo _, search) => (false, search)
  | octet :: later, search =>
      match search.step number (some octet) with
      | (.found, search) => (true, search)
      | (.goesTo next, search) => foundFrom next later search

def foundIn (text : String) (search : PatternSearch) : Bool × PatternSearch :=
  let (number, search) := search.numberOf { before := none, reached := [] }
  foundFrom number text.toUTF8.toList search

end PatternSearch

/-! ### From a written pattern to a search for it -/

/-- Why a text is no pattern that can be looked for. -/
inductive PatternRefusal where
  | faulty (error : PatternError)
  /-- The edges of words of all scripts are not known. -/
  | noMachine
  | tooLarge
  deriving DecidableEq

def PatternRefusal.message (text : String) : PatternRefusal → String
  | .faulty error => error.message text
  | .noMachine => "error building NFA"
  | .tooLarge =>
      "Compiled regex exceeds size limit of " ++ MachineDraft.limit.repr ++
        " bytes."

namespace PatternSearch

/-- Neither the machine that reads a text forwards nor the one that reads it
backwards may be too large; words are looked at between the two. -/
def ofPattern (pattern : Pattern) : Except PatternRefusal PatternSearch :=
  match PatternMachine.ofPattern? .forwards pattern with
  | none => .error .tooLarge
  | some machine =>
      if pattern.needsScripts then .error .noMachine
      else
        match PatternMachine.ofPattern? .backwards pattern with
        | none => .error .tooLarge
        | some _ => .ok (ofMachine machine pattern.hasLook)

/-- Words take the place of a pattern that is too large. -/
def ofPatternOrWords (pattern : Pattern) : Except PatternRefusal PatternSearch :=
  match ofPattern pattern with
  | .error .tooLarge =>
      match pattern.asWords? with
      | some words => ofPattern words
      | none => .error .tooLarge
  | result => result

def read (text : String) : Except PatternRefusal PatternSearch := do
  let tree ← (PatternTree.read text.toList).mapError .faulty
  let pattern ← tree.meaning.mapError .faulty
  ofPatternOrWords pattern

end PatternSearch

end FlashScript
