/-
The written form of patterns: characters, the dot, classes, escapes, `^` and
`$`, repetitions, groups, alternatives, and modes.  Reading keeps the groups
that are not closed in a list and ends because every step takes a character.
-/

import FlashScript.Text.Characters
import FlashScript.Text.Pattern.ClassReader

namespace FlashScript

/-- A group, or the whole pattern, as far as it was read; lists have the
nearest part first. -/
structure GroupLevel where
  start : Place
  alternatives : List PatternTree
  /-- Where the alternative begins that is being read. -/
  begun : Place
  items : List PatternTree

namespace GroupLevel

def startingAt (place : Place) : GroupLevel :=
  { start := place
    alternatives := []
    begun := place
    items := [] }

def push (level : GroupLevel) (item : PatternTree) : GroupLevel :=
  { level with items := item :: level.items }

def sequence (level : GroupLevel) (stop : Place) : PatternTree :=
  let span : Span := { first := level.begun, stop := stop }
  match level.items with
  | [] => .nothing span
  | [only] => only
  | items => .sequence span items.reverse

/-- Ends an alternative at a bar; the next one begins behind it. -/
def split (level : GroupLevel) (bar next : Place) : GroupLevel :=
  { level with
    alternatives := level.sequence bar :: level.alternatives
    begun := next
    items := [] }

def tree (level : GroupLevel) (stop : Place) : PatternTree :=
  match level.alternatives with
  | [] => level.sequence stop
  | alternatives =>
      .choice { first := level.start, stop := stop }
        (level.sequence stop :: alternatives).reverse

end GroupLevel

/-- What surrounds a group that is not closed. -/
structure Surroundings where
  outer : GroupLevel
  opening : Span
  kind : GroupKind
  spaced : Bool

namespace Reading

/-! ### Repetitions -/

def largestCount : Nat := 4294967295

/-- The value of decimal digits; all values that are too large are one. -/
def decimalValue (digits : List Char) : Nat :=
  digits.foldl
    (fun value digit =>
      min (largestCount + 1) (10 * value + (digit.toNat - '0'.toNat))) 0

def skipBlanks : Nat → Reading Unit
  | 0 => return ()
  | fuel + 1 => do
      if (← next?).any Blank.isBlank then
        let _ ← advance
        skipBlanks fuel

/-- A count with blanks around it.  What is wrong with it is found out last,
because the end of the pattern counts first. -/
def readCount : Reading (Except PatternError Nat) := do
  skipBlanks (← budget)
  let start ← here
  let digits ← takeWhile Char.isDigit (← budget)
  let span ← since start
  let _ ← takeWhile Blank.isBlank (← budget)
  let wrong (fault : PatternFault) : Except PatternError Nat :=
    .error { fault := fault, span := span, earlier := none }
  if digits.isEmpty then return wrong .missingCount
  else if largestCount < decimalValue digits then return wrong .countTooLarge
  else return .ok (decimalValue digits)

/-- Reads on from an opening brace: one count, or the least and perhaps the most
with a comma between them.  The closing brace comes next. -/
def readCounts (start : Place) : Reading (Nat × Option Nat) := do
  unless ← advanceSpaced do refuse .unclosedCount (← since start)
  let least ← readCount
  match ← next? with
  | none => refuse .unclosedCount (← since start)
  | some ',' =>
      unless ← advanceSpaced do refuse .unclosedCount (← since start)
      if (← next?) = some '\x7d' then return (← least, none)
      else
        let least ← least
        let most ← (← readCount)
        return (least, some most)
  | some _ =>
      let count ← least
      return (count, some count)

def operand (level : GroupLevel) : Reading (PatternTree × GroupLevel) := do
  match level.items with
  | [] => refuse .missingOperand (← gapHere)
  | .modes _ _ :: _ => refuse .missingOperand (← gapHere)
  | item :: before => return (item, { level with items := before })

def repeatedTree (body : PatternTree) (least : Nat) (most : Option Nat)
    (isLazy : Bool) (stop : Place) : PatternTree :=
  .repetition (body.span.upTo stop) least most isLazy body

def readRepetition (level : GroupLevel) (least : Nat) (most : Option Nat) :
    Reading GroupLevel := do
  let (body, level) ← operand level
  let _ ← advance
  let isLazy ← takes "?"
  return level.push (repeatedTree body least most isLazy (← here))

def readCounted (level : GroupLevel) : Reading GroupLevel := do
  let start ← here
  let (body, level) ← operand level
  let (least, most) ← readCounts start
  unless (← next?) = some '\x7d' do refuse .unclosedCount (← since start)
  let isLazy ← if ← advanceSpaced then takes "?" else pure false
  if most.any (fun bound => bound < least) then
    refuse .countsReversed (← since start)
  return level.push (repeatedTree body least most isLazy (← here))

/-! ### Groups -/

def knownModes : List Char :=
  ['i', 'm', 's', 'U', 'u', 'R', 'x']

/-- Letters with their places up to a colon or a closing parenthesis. -/
def readModes : Nat → List (Char × Span) → Reading (List (Char × Span))
  | 0, read => return read
  | fuel + 1, read => do
      match ← next? with
      | none => refuse .modesAtEnd (← gapHere)
      | some character =>
          if character = ':' || character = ')' then
            match read.getLast? with
            | some ('-', span) => refuse .danglingHyphen span
            | _ => return read
          else
            let span ← charSpan character
            let isHyphen := character = '-'
            unless isHyphen || knownModes.contains character do
              refuse .unknownMode span
            match read.find? (fun other => other.1 = character) with
            | some (_, earlier) =>
                refuseRepeated
                  (if isHyphen then .repeatedHyphen else .repeatedMode)
                  span earlier
            | none =>
                let _ ← advance
                readModes fuel (read ++ [(character, span)])

/-- A name begins with a letter or an underscore. -/
def isNameChar (first : Bool) (character : Char) : Bool :=
  character = '_' || Alphabetic.isAlphabetic character ||
    (!first &&
      (character = '.' || character = '[' || character = ']' ||
        Numeral.isNumeral character))

def readNameChars (first : Bool) : Nat → Reading (List Char)
  | 0 => return []
  | fuel + 1 => do
      match ← next? with
      | none => refuse .unclosedName (← gapHere)
      | some character =>
          if character = '>' then return []
          else if isNameChar first character then
            let _ ← advance
            return character :: (← readNameChars false fuel)
          else refuse .badName (← charSpan character)

/-- Reads on behind the `<` of a name.  No two groups have one name. -/
def readName : Reading Unit := do
  let start ← here
  let name ← readNameChars true (← budget)
  let span ← since start
  let _ ← advance
  if name.isEmpty then refuse .emptyName (Span.gapAt start)
  match (← get).names[String.ofList name]? with
  | some earlier => refuseRepeated .repeatedName span earlier
  | none =>
      modify (fun cursor =>
        { cursor with names := cursor.names.insert (String.ofList name) span })

def looksAround : Reading Bool := do
  if ← takes "?=" then return true
  else if ← takes "?!" then return true
  else if ← takes "?<=" then return true
  else takes "?<!"

def startsName : Reading Bool := do
  if ← takes "?P<" then return true
  else takes "?<"

def setSpaced (letters : List Char) : Reading Unit :=
  modify (fun cursor =>
    { cursor with spaced := (modeState? 'x' letters).getD cursor.spaced })

def enter (level : GroupLevel) (outer : List Surroundings) (opening : Span)
    (kind : GroupKind) : Reading (GroupLevel × List Surroundings) := do
  let surroundings : Surroundings :=
    { outer := level
      opening := opening
      kind := kind
      spaced := (← get).spaced }
  match kind with
  | .capturing _ => pure ()
  | .plain letters => setSpaced letters
  return (GroupLevel.startingAt (← here), surroundings :: outer)

def nextNumber : Reading Nat := do
  modify (fun cursor => { cursor with captures := cursor.captures + 1 })
  return (← get).captures

/-- Reads on from an opening parenthesis.  Letters with a parenthesis behind
them set modes for the rest of the group around them. -/
def openGroup (level : GroupLevel) (outer : List Surroundings) :
    Reading (GroupLevel × List Surroundings) := do
  let opening ← charSpan '('
  let _ ← advance
  skipSpace
  if ← looksAround then refuse .lookAround (← since opening.first)
  let inner ← here
  if ← startsName then
    let number ← nextNumber
    readName
    enter level outer opening (.capturing number)
  else if ← takes "?" then
    if ← atEnd then refuse .unclosedGroup opening
    let letters ← readModes (← budget) []
    let closed := (← next?) = some ')'
    let _ ← advance
    if closed then
      if letters.isEmpty then refuse .missingOperand (Span.gapAt inner)
      setSpaced (letters.map Prod.fst)
      let span ← since opening.first
      return (level.push (.modes span (letters.map Prod.fst)), outer)
    else enter level outer opening (.plain (letters.map Prod.fst))
  else enter level outer opening (.capturing (← nextNumber))

def closeGroup (level : GroupLevel) (outer : List Surroundings) :
    Reading (GroupLevel × List Surroundings) := do
  match outer with
  | [] => refuse .unopenedGroup (← charSpan ')')
  | surroundings :: outer =>
      modify (fun cursor => { cursor with spaced := surroundings.spaced })
      let body := level.tree (← here)
      let _ ← advance
      let span := surroundings.opening.upTo (← here)
      return (surroundings.outer.push (.group span surroundings.kind body), outer)

/-! ### The whole pattern -/

def readSign (level : GroupLevel) (character : Char)
    (tree : Span → PatternTree) : Reading GroupLevel := do
  let span ← charSpan character
  let _ ← advance
  return level.push (tree span)

/-- Reads on from a character that is no parenthesis. -/
def readItem (level : GroupLevel) (character : Char) : Reading GroupLevel := do
  match character with
  | '|' =>
      let bar ← here
      let _ ← advance
      return level.split bar (← here)
  | '[' => return level.push (← readClass)
  | '?' => readRepetition level 0 (some 1)
  | '*' => readRepetition level 0 none
  | '+' => readRepetition level 1 none
  | '\x7b' => readCounted level
  | '\\' => return level.push (← readEscape).tree
  | '.' => readSign level character .dot
  | '^' => readSign level character (fun span => .look span .lineStart)
  | '$' => readSign level character (fun span => .look span .lineEnd)
  | _ =>
      readSign level character
        (fun span => .literal (plainLiteral span character))

def readFrom : Nat → GroupLevel → List Surroundings → Reading PatternTree
  | 0, level, _ => return level.tree (← here)
  | fuel + 1, level, outer => do
      skipSpace
      match ← next?, outer with
      | none, [] => return level.tree (← here)
      | none, surroundings :: _ => refuse .unclosedGroup surroundings.opening
      | some '(', _ =>
          let (level, outer) ← openGroup level outer
          readFrom fuel level outer
      | some ')', _ =>
          let (level, outer) ← closeGroup level outer
          readFrom fuel level outer
      | some character, _ => readFrom fuel (← readItem level character) outer

end Reading

/-- Nesting is looked at when all else is right. -/
def PatternTree.read (text : List Char) : Except PatternError PatternTree := do
  let level := GroupLevel.startingAt Place.start
  let tree ←
    (Reading.readFrom (text.length + 1) level []).run' (PatternCursor.start text)
  tree.checkNesting 0
  return tree

end FlashScript
