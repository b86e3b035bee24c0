/-
What a written pattern means under its modes.  Properties, classes beyond the
ASCII range and letter case beyond it are not known, and a pattern that could
match a part of a character is refused, so that all patterns are over whole
characters.
-/

import FlashScript.Text.Pattern
import FlashScript.Text.Pattern.ClassSet
import FlashScript.Text.Pattern.Tree

namespace FlashScript

structure Modes where
  /-- Letters stand for both of their cases. -/
  folds : Bool
  /-- `^` and `$` hold at every line. -/
  byLine : Bool
  /-- The dot stands for the end of a line too. -/
  dotsAll : Bool
  /-- Classes and words are of all scripts and not of the ASCII range. -/
  allScripts : Bool
  /-- A carriage return ends a line too. -/
  anyLine : Bool
  /-- A repetition is lazy unless it is written as one. -/
  swapsGreed : Bool
  deriving DecidableEq

namespace Modes

def plain : Modes :=
  { folds := false
    byLine := false
    dotsAll := false
    allScripts := true
    anyLine := false
    swapsGreed := false }

def change (modes : Modes) (letters : List Char) : Modes :=
  { folds := (modeState? 'i' letters).getD modes.folds
    byLine := (modeState? 'm' letters).getD modes.byLine
    dotsAll := (modeState? 's' letters).getD modes.dotsAll
    allScripts := (modeState? 'u' letters).getD modes.allScripts
    anyLine := (modeState? 'R' letters).getD modes.anyLine
    swapsGreed := (modeState? 'U' letters).getD modes.swapsGreed }

def alphabet (modes : Modes) : Alphabet :=
  if modes.allScripts then .characters else .octets

def word (modes : Modes) (edge : WordEdge) : Look :=
  .word edge (!modes.allScripts)

def look (modes : Modes) : LookSign → Look
  | .lineStart =>
      if !modes.byLine then .textStart
      else if modes.anyLine then .anyLineStart
      else .lineStart
  | .lineEnd =>
      if !modes.byLine then .textEnd
      else if modes.anyLine then .anyLineEnd
      else .lineEnd
  | .textStart => .textStart
  | .textEnd => .textEnd
  | .wordEither => modes.word .either
  | .wordNeither => modes.word .neither
  | .wordStart => modes.word .start
  | .wordStop => modes.word .stop
  | .wordStartHalf => modes.word .startHalf
  | .wordStopHalf => modes.word .stopHalf

end Modes

namespace Meaning

def refuse {α : Type} (fault : PatternFault) (span : Span) :
    Except PatternError α :=
  .error { fault := fault, span := span, earlier := none }

/-! ### Sets -/

/-- A set of octets is of the ASCII range, or else it has parts of characters. -/
def wholeCharacters (set : ClassSet) (span : Span) :
    Except PatternError ClassSet :=
  if set.alphabet = .octets && !set.toSet.isAscii then refuse .loneOctet span
  else .ok set

def fold (modes : Modes) (set : ClassSet) (span : Span) :
    Except PatternError ClassSet :=
  if modes.folds then
    match set.close? with
    | some closed => .ok closed
    | none => refuse .unknownCase span
  else .ok set

/-- Letter case comes before the complement. -/
def foldAndNegate (modes : Modes) (set : ClassSet) (negated : Bool)
    (span : Span) : Except PatternError ClassSet := do
  wholeCharacters ((← fold modes set span).negateIf negated) span

def namedSet (modes : Modes) (named : NamedClass) (negated : Bool)
    (span : Span) : Except PatternError ClassSet :=
  foldAndNegate modes (ClassSet.ofRuns modes.alphabet named.runs) negated span

def letterSet (modes : Modes) (letter : LetterClass) (negated : Bool)
    (span : Span) : Except PatternError ClassSet :=
  if modes.allScripts then refuse .unknownClass span
  else
    wholeCharacters
      ((ClassSet.ofRuns .octets letter.named.runs).negateIf negated) span

/-- The name of a property without what makes no difference in it. -/
def plainName (name : List Char) : List Char :=
  let isPrefixed := (name.take 2).map Char.toLower = ['i', 's']
  let rest := if isPrefixed then name.drop 2 else name
  let plain := (rest.filter (fun character =>
    character.toNat < 128 && character ≠ ' ' && character ≠ '_' &&
      character ≠ '-')).map Char.toLower
  if isPrefixed && plain = ['c'] then ['i', 's', 'c'] else plain

/-- Names of a category that are short for another property as well. -/
def categoryNames : List (List Char) :=
  [['c', 'f'], ['l', 'c'], ['s', 'c']]

/-- No property is known.  Of a name that can only be a category, the category
is what is not found. -/
def propertySet (modes : Modes) (sign : PropertySign) (span : Span) :
    Except PatternError ClassSet :=
  if !modes.allScripts then refuse .beyondAscii span
  else
    match sign with
    | .valued => refuse .unknownProperty span
    | .lone name =>
        if categoryNames.contains (plainName name) then
          refuse .unknownPropertyValue span
        else refuse .unknownProperty span

def literalChar (modes : Modes) (sign : LiteralSign) :
    Except PatternError Char :=
  if !modes.allScripts && sign.isOctet && 128 ≤ sign.character.toNat then
    refuse .loneOctet sign.span
  else .ok sign.character

def memberCode (modes : Modes) (sign : LiteralSign) :
    Except PatternError Nat := do
  let character ← literalChar modes sign
  if !modes.allScripts && 128 ≤ character.toNat then
    refuse .beyondAscii sign.span
  else return character.toNat

mutual

def treeSet (modes : Modes) : ClassTree → Except PatternError ClassSet
  | .item only => addItem modes (ClassSet.empty modes.alphabet) only
  | .operation _ operation left right => do
      let leftSet ← treeSet modes left
      let rightSet ← treeSet modes right
      let rightSet ← fold modes rightSet right.span
      let leftSet ← fold modes leftSet left.span
      match operation with
      | .intersection => return leftSet.inter rightSet
      | .difference => return leftSet.diff rightSet
      | .symmetricDifference => return leftSet.symmDiff rightSet

def addItem (modes : Modes) (set : ClassSet) :
    ClassItem → Except PatternError ClassSet
  | .nothing _ => .ok set
  | .literal sign => do
      let code ← memberCode modes sign
      return set.insert (code, code)
  | .range _ first last => do
      let least ← memberCode modes first
      let most ← memberCode modes last
      return set.insert (least, most)
  | .named span named negated => do
      return set.union (← namedSet modes named negated span)
  | .property span sign => do
      return set.union (← propertySet modes sign span)
  | .letter span letter negated => do
      return set.union (← letterSet modes letter negated span)
  | .bracketed span negated tree => do
      let inner ← treeSet modes tree
      return set.union (← foldAndNegate modes inner negated span)
  | .union _ items => addItems modes set items

def addItems (modes : Modes) (set : ClassSet) :
    List ClassItem → Except PatternError ClassSet
  | [] => .ok set
  | item :: later => do addItems modes (← addItem modes set item) later

end

/-! ### Patterns -/

def literal (modes : Modes) (sign : LiteralSign) : Except PatternError Pattern := do
  let character ← literalChar modes sign
  if !modes.folds then return .literal [character]
  else if modes.allScripts then refuse .unknownCase sign.span
  else if character.isAlpha then
    return Pattern.ofSet
      (CharSet.ofChars .octets [character.toUpper, character.toLower])
  else return .literal [character]

def dot (modes : Modes) (span : Span) : Except PatternError Pattern :=
  if !modes.allScripts then refuse .loneOctet span
  else if modes.dotsAll then .ok (.one (CharSet.everything .characters))
  else
    .ok (.one (CharSet.ofChars .characters
      (if modes.anyLine then ['\r', '\n'] else ['\n'])).complement)

mutual

def pattern (modes : Modes) : PatternTree → Except PatternError (Pattern × Modes)
  | .nothing _ => .ok (.empty, modes)
  | .modes _ letters => .ok (.empty, modes.change letters)
  | .literal sign => return (← literal modes sign, modes)
  | .dot span => return (← dot modes span, modes)
  | .look _ sign => .ok (.look (modes.look sign), modes)
  | .property span sign =>
      return (Pattern.ofSet (← propertySet modes sign span).toSet, modes)
  | .letter span letter negated =>
      return (Pattern.ofSet (← letterSet modes letter negated span).toSet, modes)
  | .bracketed span negated tree => do
      let set ← foldAndNegate modes (← treeSet modes tree) negated span
      return (Pattern.ofSet set.toSet, modes)
  | .repetition _ least most isLazy body => do
      let (body, modes) ← pattern modes body
      let greedy := isLazy = modes.swapsGreed
      return (Pattern.repeated body least most greedy, modes)
  | .group _ (.capturing number) body => do
      let (body, _) ← pattern modes body
      return (.capture number body, modes)
  | .group _ (.plain letters) body => do
      let (body, _) ← pattern (modes.change letters) body
      return (body, modes)
  | .choice _ alternatives => do
      let (patterns, modes) ← patterns modes alternatives
      return (Pattern.oneOf patterns, modes)
  | .sequence _ items => do
      let (patterns, modes) ← patterns modes items
      return (Pattern.inSequence patterns, modes)

def patterns (modes : Modes) :
    List PatternTree → Except PatternError (List Pattern × Modes)
  | [] => .ok ([], modes)
  | tree :: later => do
      let (first, modes) ← pattern modes tree
      let (others, modes) ← patterns modes later
      return (first :: others, modes)

end

end Meaning

def PatternTree.meaning (tree : PatternTree) : Except PatternError Pattern :=
  return (← Meaning.pattern Modes.plain tree).1

end FlashScript
