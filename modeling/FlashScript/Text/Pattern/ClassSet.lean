/-
The set of a class while it is read.  Its parts come in any order, and it
remembers whether it is closed under letter case, because closing it again
would not change it.
-/

import FlashScript.Text.CharSet

namespace FlashScript

structure ClassSet where
  alphabet : Alphabet
  parts : List CharSet.Run
  closed : Bool

namespace ClassSet

def empty (alphabet : Alphabet) : ClassSet :=
  { alphabet := alphabet
    parts := []
    closed := true }

def ofRuns (alphabet : Alphabet) (runs : List CharSet.Run) : ClassSet :=
  { alphabet := alphabet
    parts := runs
    closed := runs.isEmpty }

def toSet (set : ClassSet) : CharSet :=
  CharSet.ofRuns set.alphabet set.parts

def ofSet (set : CharSet) (closed : Bool) : ClassSet :=
  { alphabet := set.alphabet
    parts := set.runs
    closed := closed }

/-- Nothing is known of the letter case of a new part. -/
def insert (set : ClassSet) (added : CharSet.Run) : ClassSet :=
  { set with
    parts := CharSet.run added.1 added.2 :: set.parts
    closed := false }

/-- A set is left as it is by nothing and by a set with the same members. -/
def keeps (set other : ClassSet) : Bool :=
  other.parts.isEmpty || set.toSet.runs = other.toSet.runs

def union (set other : ClassSet) : ClassSet :=
  { set with
    parts := other.parts ++ set.parts
    closed := set.closed && (other.closed || set.keeps other) }

def inter (set other : ClassSet) : ClassSet :=
  ofSet (set.toSet.inter other.toSet)
    (if set.parts.isEmpty then set.closed
    else other.parts.isEmpty || (set.closed && other.closed))

def diff (set other : ClassSet) : ClassSet :=
  ofSet (set.toSet.diff other.toSet)
    (if set.parts.isEmpty || other.parts.isEmpty then set.closed
    else set.closed && other.closed)

def symmDiff (set other : ClassSet) : ClassSet :=
  (set.union other).diff (set.inter other)

/-- Everything is closed under letter case. -/
def complement (set : ClassSet) : ClassSet :=
  ofSet set.toSet.complement (set.closed || set.parts.isEmpty)

def negateIf (set : ClassSet) (negated : Bool) : ClassSet :=
  if negated then set.complement else set

/-- Only the letter case of the ASCII range is known, so a set of characters
can be closed only if it is closed already. -/
def close? (set : ClassSet) : Option ClassSet :=
  if set.closed || set.parts.isEmpty then some set
  else
    match set.alphabet with
    | .characters => none
    | .octets => some (ofSet set.toSet.withOtherCase true)

end ClassSet

end FlashScript
