/-
Reading a written pattern from its beginning: a cursor holds the characters
that are left and the place, and every step moves it on or finds a fault.
-/

import FlashScript.Text.Characters
import FlashScript.Text.Pattern.Fault
import Std.Data.HashMap

namespace FlashScript

structure PatternCursor where
  size : Nat
  rest : List Char
  place : Place
  /-- Blanks and comments between the parts of the pattern are passed over. -/
  spaced : Bool
  names : Std.HashMap String Span
  captures : Nat

abbrev Reading := StateT PatternCursor (Except PatternError)

namespace PatternCursor

def start (text : List Char) : PatternCursor :=
  { size := text.length
    rest := text
    place := Place.start
    spaced := false
    names := Std.HashMap.emptyWithCapacity
    captures := 0 }

/-- Passes over blanks, and over comments from `#` to the end of the line. -/
def skip (inComment : Bool) (place : Place) : List Char → List Char × Place
  | [] => ([], place)
  | character :: later =>
      let behind := place.after character
      if inComment then skip (character ≠ '\n') behind later
      else if Blank.isBlank character then skip false behind later
      else if character = '#' then skip true behind later
      else (character :: later, place)

/-- What comes first behind blanks; a `#` is passed over as well, and where
nothing else comes it is the first character. -/
def firstBehind (inComment : Bool) (all : List Char) : List Char → Option Char
  | [] => all.head?
  | character :: later =>
      if Blank.isBlank character then firstBehind inComment all later
      else if !inComment && character = '#' then firstBehind true all later
      else some character

end PatternCursor

namespace Reading

def refuse {α : Type} (fault : PatternFault) (span : Span) : Reading α :=
  throw { fault := fault, span := span, earlier := none }

def refuseRepeated {α : Type} (fault : PatternFault) (span earlier : Span) :
    Reading α :=
  throw { fault := fault, span := span, earlier := some earlier }

def here : Reading Place :=
  return (← get).place

def gapHere : Reading Span :=
  return Span.gapAt (← here)

def since (first : Place) : Reading Span :=
  return { first := first, stop := ← here }

def next? : Reading (Option Char) :=
  return (← get).rest.head?

def atEnd : Reading Bool :=
  return (← get).rest.isEmpty

/-- Enough for any loop that takes a character at every turn. -/
def budget : Reading Nat :=
  return (← get).size + 1

/-- The part that is the next character, which is given. -/
def charSpan (character : Char) : Reading Span := do
  let place ← here
  return { first := place, stop := place.after character }

/-- Passes over a character; whether there is one behind it. -/
def advance : Reading Bool := do
  let cursor ← get
  match cursor.rest with
  | [] => return false
  | character :: later =>
      set { cursor with
        rest := later
        place := cursor.place.after character }
      return !later.isEmpty

def skipSpace : Reading Unit := do
  let cursor ← get
  if cursor.spaced then
    let (rest, place) := PatternCursor.skip false cursor.place cursor.rest
    set { cursor with rest := rest, place := place }

/-- Passes over a character and the space behind it; whether there is one
behind that. -/
def advanceSpaced : Reading Bool := do
  if ← advance then
    skipSpace
    return !(← atEnd)
  else return false

def takes (text : String) : Reading Bool := do
  let cursor ← get
  if text.toList.isPrefixOf cursor.rest then
    set { cursor with
      rest := cursor.rest.drop text.length
      place := text.toList.foldl Place.after cursor.place }
    return true
  else return false

def second? : Reading (Option Char) :=
  return (← get).rest.tail.head?

/-- The character behind the next one and the space after it. -/
def secondSpaced? : Reading (Option Char) := do
  let cursor ← get
  let behind := cursor.rest.tail
  if cursor.spaced then return PatternCursor.firstBehind false behind behind
  else return behind.head?

/-- Characters of a kind; after each of them space is passed over as well. -/
def takeWhile (belongs : Char → Bool) : Nat → Reading (List Char)
  | 0 => return []
  | fuel + 1 => do
      match ← next? with
      | none => return []
      | some character =>
          if belongs character then
            let _ ← advanceSpaced
            return character :: (← takeWhile belongs fuel)
          else return []

end Reading

end FlashScript
