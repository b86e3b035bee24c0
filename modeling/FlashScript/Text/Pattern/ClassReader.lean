/-
Classes in brackets: members, ranges, named classes, classes in classes, and
the operations `&&`, `--` and `~~`, which are of one rank and go from left to
right.
-/

import FlashScript.Text.Pattern.Escape

namespace FlashScript

/-- Members of a class, the nearest one first. -/
structure Gathered where
  span : Span
  items : List ClassItem

namespace Gathered

def startingAt (place : Place) : Gathered :=
  { span := Span.gapAt place
    items := [] }

def push (gathered : Gathered) (item : ClassItem) : Gathered :=
  { span :=
      { first :=
          if gathered.items.isEmpty then item.span.first
          else gathered.span.first
        stop := item.span.stop }
    items := item :: gathered.items }

def item (gathered : Gathered) : ClassItem :=
  match gathered.items with
  | [] => .nothing gathered.span
  | [only] => only
  | items => .union gathered.span items.reverse

end Gathered

structure ClassLevel where
  /-- From the bracket to the members. -/
  opening : Span
  negated : Bool
  pending : Option (SetOperation × ClassTree)
  gathered : Gathered

namespace ClassLevel

def push (level : ClassLevel) (item : ClassItem) : ClassLevel :=
  { level with gathered := level.gathered.push item }

/-- All that was read, the operation that waited for its right side included. -/
def tree (level : ClassLevel) : ClassTree :=
  let right := ClassTree.item level.gathered.item
  match level.pending with
  | none => right
  | some (operation, left) =>
      .operation { first := left.span.first, stop := right.span.stop }
        operation left right

def operate (level : ClassLevel) (operation : SetOperation) (place : Place) :
    ClassLevel :=
  { level with
    pending := some (operation, level.tree)
    gathered := Gathered.startingAt place }

end ClassLevel

namespace Reading

/-- Hyphens at the beginning stand for themselves. -/
def readHyphens (start : Place) : Nat → Gathered → Reading Gathered
  | 0, gathered => return gathered
  | fuel + 1, gathered => do
      if (← next?) = some '-' then
        let span ← charSpan '-'
        unless ← advanceSpaced do refuse .unclosedClass (Span.gapAt start)
        readHyphens start fuel
          (gathered.push (.literal (plainLiteral span '-')))
      else return gathered

/-- Reads on from an opening bracket.  A closing bracket that would be the first
member stands for itself, so that no class is empty. -/
def openClass : Reading ClassLevel := do
  let start ← here
  unless ← advanceSpaced do refuse .unclosedClass (← since start)
  let negated := (← next?) = some '^'
  if negated then
    unless ← advanceSpaced do refuse .unclosedClass (← since start)
  let gathered ←
    readHyphens start (← budget) (Gathered.startingAt (← here))
  let mut members := gathered
  if gathered.items.isEmpty && (← next?) = some ']' then
    let span ← charSpan ']'
    unless ← advanceSpaced do refuse .unclosedClass (← since start)
    members := gathered.push (.literal (plainLiteral span ']'))
  return {
    opening := ← since start
    negated := negated
    pending := none
    gathered := members }

/-- A named class from its bracket on; the cursor stays where it is if there
is none. -/
def readNamed? : Reading (Option ClassItem) := do
  let cursor ← get
  let start ← here
  if ← takes "[:" then
    let negated ← takes "^"
    let name := (← get).rest.takeWhile (fun character => character ≠ ':')
    let _ ← takes (String.ofList name)
    if ← takes ":]" then
      match NamedClass.ofName? name with
      | some named => return some (.named (← since start) named negated)
      | none => pure ()
  set cursor
  return none

def readMember : Reading Primitive := do
  match ← next? with
  | some '\\' => readEscape
  | some character =>
      let span ← charSpan character
      let _ ← advance
      return .literal (plainLiteral span character)
  | none => refuse .unclosedClass (← gapHere)

def asItem : Primitive → Reading ClassItem
  | .literal sign => pure (.literal sign)
  | .property span sign => pure (.property span sign)
  | .letter span kind negated => pure (.letter span kind negated)
  | .look span _ => refuse .conditionInClass span

def asBoundary : Primitive → Reading LiteralSign
  | .literal sign => pure sign
  | other => refuse .rangeBoundary other.span

/-- A member, or a range if a hyphen follows; before a closing bracket or
another hyphen it is no range. -/
def readRange (opening : Span) : Reading ClassItem := do
  let first ← readMember
  skipSpace
  if ← atEnd then refuse .unclosedClass opening
  let ahead ← secondSpaced?
  if (← next?) ≠ some '-' || ahead = some ']' || ahead = some '-' then
    asItem first
  else
    unless ← advanceSpaced do refuse .unclosedClass opening
    let last ← readMember
    let span : Span := { first := first.span.first, stop := last.span.stop }
    let least ← asBoundary first
    let most ← asBoundary last
    if most.character < least.character then refuse .rangeReversed span
    return .range span least most

def operation? (character : Char) (second : Option Char) :
    Option SetOperation :=
  if second ≠ some character then none
  else
    match character with
    | '&' => some .intersection
    | '-' => some .difference
    | '~' => some .symmetricDifference
    | _ => none

/-- Reads on in a class; `outer` are the classes around it, the nearest one
first. -/
def readClassFrom : Nat → ClassLevel → List ClassLevel → Reading PatternTree
  | 0, level, _ => refuse .unclosedClass level.opening
  | fuel + 1, level, outer => do
      skipSpace
      match ← next? with
      | none => refuse .unclosedClass level.opening
      | some '[' =>
          match ← readNamed? with
          | some item => readClassFrom fuel (level.push item) outer
          | none => readClassFrom fuel (← openClass) (level :: outer)
      | some ']' =>
          let _ ← advance
          let span ← since level.opening.first
          match outer with
          | [] => return .bracketed span level.negated level.tree
          | parent :: outer =>
              readClassFrom fuel
                (parent.push (.bracketed span level.negated level.tree)) outer
      | some character =>
          match operation? character (← second?) with
          | some operation =>
              let _ ← advance
              let _ ← advance
              readClassFrom fuel (level.operate operation (← here)) outer
          | none =>
              readClassFrom fuel (level.push (← readRange level.opening)) outer

def readClass : Reading PatternTree := do
  let fuel ← budget
  readClassFrom fuel (← openClass) []

end Reading

end FlashScript
