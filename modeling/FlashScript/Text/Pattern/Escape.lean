/-
What follows a backslash in a pattern: characters, octets and codes, classes
with a letter, properties, and conditions.
-/

import FlashScript.Text.Hex
import FlashScript.Text.Pattern.Cursor
import FlashScript.Text.Pattern.Tree

namespace FlashScript

/-- A part of a pattern that has no parts, but for the dot. -/
inductive Primitive where
  | literal (sign : LiteralSign)
  | property (span : Span) (sign : PropertySign)
  | letter (span : Span) (letter : LetterClass) (negated : Bool)
  | look (span : Span) (sign : LookSign)
  deriving DecidableEq

namespace Primitive

def span : Primitive → Span
  | .literal sign => sign.span
  | .property span _ => span
  | .letter span _ _ => span
  | .look span _ => span

def tree : Primitive → PatternTree
  | .literal sign => .literal sign
  | .property span sign => .property span sign
  | .letter span kind negated => .letter span kind negated
  | .look span sign => .look span sign

end Primitive

namespace Reading

def plainLiteral (span : Span) (character : Char) : LiteralSign :=
  { span := span, character := character, isOctet := false }

/-! ### Codes -/

/-- How many digits a code has without braces, by the letter before it. -/
def codeLength? : Char → Option Nat
  | 'x' => some 2
  | 'u' => some 4
  | 'U' => some 8
  | _ => none

def codeValue (digits : List Char) : Nat :=
  digits.foldl
    (fun value digit => 16 * value + (Hex.digitValue? digit).getD 0) 0

def codeChar? (digits : List Char) : Option Char :=
  let value := codeValue digits
  if value.isValidChar then some (Char.ofNat value) else none

def readCodeDigits : Nat → Reading (List Char)
  | 0 => return []
  | count + 1 => do
      match ← next? with
      | none => refuse .escapeAtEnd (← gapHere)
      | some character =>
          if Hex.isDigit character then
            let _ ← advanceSpaced
            return character :: (← readCodeDigits count)
          else refuse .noCodeDigit (← charSpan character)

/-- Reads on from an opening brace up to the closing one. -/
def readBraced (belongs : Char → Bool) : Nat → Reading (List Char)
  | 0 => return []
  | fuel + 1 => do
      if ← advanceSpaced then
        match ← next? with
        | none => return []
        | some character =>
            if character = '\x7d' then return []
            else if belongs character then
              return character :: (← readBraced belongs fuel)
            else refuse .noCodeDigit (← charSpan character)
      else return []

def readBracedCode (first : Place) : Reading Primitive := do
  let brace ← here
  let start := brace.after '\x7b'
  let digits ← readBraced Hex.isDigit (← budget)
  if ← atEnd then refuse .escapeAtEnd (← since brace)
  let stop ← here
  let _ ← advanceSpaced
  if digits.isEmpty then refuse .emptyCode (← since brace)
  match codeChar? digits with
  | some character =>
      return .literal (plainLiteral (← since first) character)
  | none => refuse .noCharacter { first := start, stop := stop }

/-- Reads on from the letter before a code.  Two digits alone are an octet. -/
def readCode (first : Place) (length : Nat) : Reading Primitive := do
  unless ← advanceSpaced do refuse .escapeAtEnd (← gapHere)
  if (← next?) = some '\x7b' then readBracedCode first
  else
    let start ← here
    let digits ← readCodeDigits length
    match codeChar? digits with
    | some character =>
        return .literal
          { span := ← since first
            character := character
            isOctet := length = 2 }
    | none => refuse .noCharacter (← since start)

/-! ### Properties -/

def readProperty (first : Place) : Reading Primitive := do
  unless ← advanceSpaced do refuse .escapeAtEnd (← gapHere)
  match ← next? with
  | none => refuse .escapeAtEnd (← gapHere)
  | some '\\' => refuse .noProperty (← charSpan '\\')
  | some '\x7b' =>
      let name ← readBraced (fun _ => true) (← budget)
      if ← atEnd then refuse .escapeAtEnd (← gapHere)
      let _ ← advance
      let sign :=
        if name.any (fun character => character = '=' || character = ':') then
          PropertySign.valued
        else .lone name
      return .property (← since first) sign
  | some character =>
      let _ ← advanceSpaced
      return .property (← since first) (.lone [character])

/-! ### Conditions and characters -/

def isEdgeLetter (character : Char) : Bool :=
  character.isAlpha || character = '-'

def edgeNamed? (name : List Char) : Option LookSign :=
  match String.ofList name with
  | "start" => some .wordStart
  | "end" => some .wordStop
  | "start-half" => some .wordStartHalf
  | "end-half" => some .wordStopHalf
  | _ => none

/-- Reads on from a brace behind `\b`.  What begins with no letter is left to be
read as a repetition. -/
def readEdge (first : Place) : Reading LookSign := do
  let cursor ← get
  let start ← here
  unless ← advanceSpaced do refuse .edgeAtEnd (← since first)
  let contents ← here
  if (← next?).any isEdgeLetter then
    let name ← takeWhile isEdgeLetter (← budget)
    if (← next?) = some '\x7d' then
      let stop ← here
      let _ ← advance
      match edgeNamed? name with
      | some sign => return sign
      | none => refuse .unknownEdge { first := contents, stop := stop }
    else refuse .unclosedEdge (← since start)
  else
    set cursor
    return .wordEither

/-- Signs of patterns, and all else of the ASCII range that is no letter or
digit, but for the two that are edges of words. -/
def standsForItself (character : Char) : Bool :=
  character.toNat < 128 && !character.isAlphanum &&
    character ≠ '<' && character ≠ '>'

def controlNamed? : Char → Option Char
  | 'a' => some '\x07'
  | 'f' => some '\x0C'
  | 't' => some '\t'
  | 'n' => some '\n'
  | 'r' => some '\r'
  | 'v' => some '\x0B'
  | _ => none

def lookNamed? : Char → Option LookSign
  | 'A' => some .textStart
  | 'z' => some .textEnd
  | 'B' => some .wordNeither
  | '<' => some .wordStart
  | '>' => some .wordStop
  | _ => none

def letterNamed? : Char → Option (LetterClass × Bool)
  | 'd' => some (.digit, false)
  | 'D' => some (.digit, true)
  | 's' => some (.blank, false)
  | 'S' => some (.blank, true)
  | 'w' => some (.word, false)
  | 'W' => some (.word, true)
  | _ => none

/-- Reads on from a character behind a backslash that is no class or code. -/
def readSimpleEscape (first : Place) (character : Char) : Reading Primitive := do
  let _ ← advance
  let span ← since first
  if standsForItself character then
    return .literal (plainLiteral span character)
  else
    match controlNamed? character, lookNamed? character with
    | some control, _ => return .literal (plainLiteral span control)
    | none, some sign => return .look span sign
    | none, none =>
        if character = 'b' then
          if (← next?) = some '\x7b' then
            let sign ← readEdge first
            return .look (← since first) sign
          else return .look span .wordEither
        else refuse .unknownEscape span

def readEscape : Reading Primitive := do
  let first ← here
  let _ ← advance
  match ← next? with
  | none => refuse .escapeAtEnd (← since first)
  | some character =>
      if character.isDigit then
        let sign ← charSpan character
        refuse .backreference { first := first, stop := sign.stop }
      else
        match codeLength? character, letterNamed? character with
        | some length, _ => readCode first length
        | none, some (letter, negated) =>
            let _ ← advance
            return .letter (← since first) letter negated
        | none, none =>
            if character = 'p' || character = 'P' then readProperty first
            else readSimpleEscape first character

end Reading

end FlashScript
