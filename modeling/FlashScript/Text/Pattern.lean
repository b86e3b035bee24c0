/-
Patterns of text: regular expressions over characters, with conditions on the
gap between two characters.  Texts that stand beside each other are one text,
and a choice between single characters is a set of characters; how large the
machine for a pattern is depends on that form.
-/

import FlashScript.Text.CharSet

namespace FlashScript

inductive WordEdge where
  | either
  | neither
  | start
  | stop
  | startHalf
  | stopHalf
  deriving DecidableEq

inductive Look where
  | textStart
  | textEnd
  | lineStart
  | lineEnd
  /-- Lines end at a carriage return, a line feed or both together. -/
  | anyLineStart
  | anyLineEnd
  /-- Word characters of the ASCII range, or of all scripts. -/
  | word (edge : WordEdge) (ascii : Bool)
  deriving DecidableEq

inductive Pattern where
  | empty
  | literal (text : List Char)
  | one (set : CharSet)
  | look (look : Look)
  /-- At least so many times, and at most so many times if there is a bound.
  More times are tried first, or fewer. -/
  | repetition (body : Pattern) (least : Nat) (most : Option Nat)
      (greedy : Bool)
  /-- The groups of a written pattern are counted. -/
  | capture (number : Nat) (body : Pattern)
  | sequence (first second : Pattern)
  | choice (left right : Pattern)
  deriving DecidableEq

namespace Pattern

/-- How many characters are matched at least; nothing if none ever match. -/
def leastLength : Pattern → Option Nat
  | .empty => some 0
  | .literal text => some text.length
  | .one set => if set.runs.isEmpty then none else some 1
  | .look _ => some 0
  | .repetition body least _ _ =>
      body.leastLength.map (fun length => least * length)
  | .capture _ body => body.leastLength
  | .sequence first second => do
      return (← first.leastLength) + (← second.leastLength)
  | .choice left right => do
      return min (← left.leastLength) (← right.leastLength)

/-- How many characters are matched at most; nothing if there is no bound or
none ever match. -/
def mostLength : Pattern → Option Nat
  | .empty => some 0
  | .literal text => some text.length
  | .one set => if set.runs.isEmpty then none else some 1
  | .look _ => some 0
  | .repetition body _ most _ => do return (← most) * (← body.mostLength)
  | .capture _ body => body.mostLength
  | .sequence first second => do
      return (← first.mostLength) + (← second.mostLength)
  | .choice left right => do
      return max (← left.mostLength) (← right.mostLength)

/-- What is known of one edge of all matches. -/
structure Edge where
  /-- The edge is where a condition holds. -/
  bound : Bool
  /-- No characters are matched, so that what comes next is at the edge too. -/
  blank : Bool

/-- An item and what is farther away from the edge. -/
def Edge.before (near far : Edge) : Edge :=
  { bound := near.bound || (near.blank && far.bound)
    blank := near.blank && far.blank }

/-- What is known of the edge where matches begin, or of the one where they
end. -/
def edge (condition : Look) (isEnd : Bool) : Pattern → Edge
  | .empty => { bound := false, blank := true }
  | .literal text => { bound := false, blank := text.isEmpty }
  | .one _ => { bound := false, blank := false }
  | .look other => { bound := other = condition, blank := true }
  | .repetition body least most _ =>
      let once := edge condition isEnd body
      { bound := 0 < least && once.bound
        blank := most.isSome && once.blank }
  | .capture _ body => edge condition isEnd body
  | .sequence first second =>
      let one := edge condition isEnd first
      let other := edge condition isEnd second
      if isEnd then other.before one else one.before other
  | .choice left right =>
      let one := edge condition isEnd left
      let other := edge condition isEnd right
      { bound := one.bound && other.bound
        blank := one.blank && other.blank }

def startsText (pattern : Pattern) : Bool :=
  (pattern.edge .textStart false).bound

def endsText (pattern : Pattern) : Bool :=
  (pattern.edge .textEnd true).bound

def needsScripts : Pattern → Bool
  | .look (.word _ ascii) => !ascii
  | .repetition body _ _ _ => needsScripts body
  | .capture _ body => needsScripts body
  | .sequence first second => needsScripts first || needsScripts second
  | .choice left right => needsScripts left || needsScripts right
  | _ => false

def hasLook : Pattern → Bool
  | .look _ => true
  | .repetition body _ _ _ => hasLook body
  | .capture _ body => hasLook body
  | .sequence first second => hasLook first || hasLook second
  | .choice left right => hasLook left || hasLook right
  | _ => false

def hasCapture : Pattern → Bool
  | .capture _ _ => true
  | .repetition body _ _ _ => hasCapture body
  | .sequence first second => hasCapture first || hasCapture second
  | .choice left right => hasCapture left || hasCapture right
  | _ => false

/-! ### Building -/

def nowhere : Pattern :=
  .one (CharSet.empty .octets)

/-- A set of one character is that character. -/
def ofSet (set : CharSet) : Pattern :=
  match set.runs with
  | [] => nowhere
  | [(first, last)] =>
      if first = last then .literal [Char.ofNat first] else .one set
  | _ => .one set

/-- What matches no characters matches as well once as many times. -/
def repeated (body : Pattern) (least : Nat) (most : Option Nat)
    (greedy : Bool) : Pattern :=
  let blank := body.mostLength = some 0
  let least := if blank then min least 1 else least
  let most := if blank then some (min (most.getD 1) 1) else most
  if most = some 0 then .empty
  else if least = 1 && most = some 1 then body
  else .repetition body least most greedy

def items : Pattern → List Pattern
  | .empty => []
  | .sequence first second => first.items ++ second.items
  | item => [item]

def joinLiterals (items : List Pattern) : List Pattern :=
  items.foldr
    (fun item later =>
      match item, later with
      | .literal text, .literal next :: later => .literal (text ++ next) :: later
      | item, later => item :: later)
    []

def chain : List Pattern → Pattern
  | [] => .empty
  | [item] => item
  | item :: later => .sequence item (chain later)

def inSequence (patterns : List Pattern) : Pattern :=
  chain (joinLiterals (patterns.flatMap items))

def alternatives : Pattern → List Pattern
  | .choice left right => left.alternatives ++ right.alternatives
  | alternative => [alternative]

def branches : List Pattern → Pattern
  | [] => nowhere
  | [alternative] => alternative
  | alternative :: later => .choice alternative (branches later)

def singleChar? : Pattern → Option Char
  | .literal [character] => some character
  | _ => none

def set? : Pattern → Option CharSet
  | .one set => some set
  | _ => none

/-- A choice between characters, or between sets, as one set. -/
def asSet? (alternatives : List Pattern) : Option CharSet :=
  match alternatives.mapM singleChar? with
  | some characters => some (CharSet.ofChars .characters characters)
  | none =>
      (alternatives.mapM set?).map (fun sets =>
        sets.foldl CharSet.union (CharSet.empty .characters))

def commonPrefixLength : List Pattern → List Pattern → Nat
  | first :: firsts, other :: others =>
      if first = other then commonPrefixLength firsts others + 1 else 0
  | _, _ => 0

/-- How many items all alternatives begin with; only sequences are looked at. -/
def sharedLength (alternatives : List (List Pattern)) : Nat :=
  match alternatives with
  | [] => 0
  | first :: later =>
      if alternatives.all (fun items => 2 ≤ items.length) then
        later.foldl
          (fun shared items => min shared (commonPrefixLength first items))
          first.length
      else 0

def between (alternatives : List Pattern) : Pattern :=
  let all := alternatives.flatMap Pattern.alternatives
  match asSet? all with
  | some set => if all.length = 1 then branches all else ofSet set
  | none => branches all

/-- A choice; what all alternatives begin with stands before it. -/
def oneOf (patterns : List Pattern) : Pattern :=
  let sequences := (patterns.flatMap alternatives).map items
  match sharedLength sequences with
  | 0 => between patterns
  | shared =>
      inSequence ((sequences.headD []).take shared ++
        [between (sequences.map (fun items => chain (items.drop shared)))])

end Pattern

end FlashScript
