/-
What is wrong with a written pattern, where, and how that is shown: the text
with marks below the places.  A text of several lines has numbered lines
between two rules, and places that run over a line end are named in words.
-/

namespace FlashScript

/-- A gap in a written pattern; lines and columns are counted from one. -/
structure Place where
  index : Nat
  line : Nat
  column : Nat
  deriving DecidableEq

namespace Place

def start : Place :=
  { index := 0
    line := 1
    column := 1 }

def after (place : Place) (character : Char) : Place :=
  if character = '\n' then
    { index := place.index + 1
      line := place.line + 1
      column := 1 }
  else
    { place with
      index := place.index + 1
      column := place.column + 1 }

end Place

structure Span where
  first : Place
  stop : Place
  deriving DecidableEq

namespace Span

def gapAt (place : Place) : Span :=
  { first := place
    stop := place }

def upTo (span : Span) (stop : Place) : Span :=
  { span with stop := stop }

def inOneLine (span : Span) : Bool :=
  span.first.line = span.stop.line

/-- The one that begins first is first, of two the one that ends first. -/
def comesBefore (one other : Span) : Bool :=
  one.first.index < other.first.index ||
    (one.first.index = other.first.index &&
      one.stop.index ≤ other.stop.index)

end Span

def nestingLimit : Nat := 250

inductive PatternFault where
  | unclosedGroup
  | unopenedGroup
  | missingOperand
  | unclosedCount
  | missingCount
  | countTooLarge
  | countsReversed
  | unclosedClass
  | rangeReversed
  | rangeBoundary
  | conditionInClass
  | escapeAtEnd
  | unknownEscape
  | backreference
  | emptyCode
  | noCodeDigit
  | noCharacter
  | noProperty
  | unclosedEdge
  | unknownEdge
  | edgeAtEnd
  | lookAround
  | unknownMode
  | repeatedMode
  | repeatedHyphen
  | danglingHyphen
  | modesAtEnd
  | emptyName
  | badName
  | unclosedName
  | repeatedName
  | nesting
  | beyondAscii
  | loneOctet
  | unknownProperty
  | unknownPropertyValue
  | unknownClass
  | unknownCase
  deriving DecidableEq

def PatternFault.message : PatternFault → String
  | .unclosedGroup => "unclosed group"
  | .unopenedGroup => "unopened group"
  | .missingOperand => "repetition operator missing expression"
  | .unclosedCount => "unclosed counted repetition"
  | .missingCount => "repetition quantifier expects a valid decimal"
  | .countTooLarge => "decimal literal invalid"
  | .countsReversed =>
      "invalid repetition count range, the start must be <= the end"
  | .unclosedClass => "unclosed character class"
  | .rangeReversed =>
      "invalid character class range, the start must be <= the end"
  | .rangeBoundary => "invalid range boundary, must be a literal"
  | .conditionInClass => "invalid escape sequence found in character class"
  | .escapeAtEnd =>
      "incomplete escape sequence, reached end of pattern prematurely"
  | .unknownEscape => "unrecognized escape sequence"
  | .backreference => "backreferences are not supported"
  | .emptyCode => "hexadecimal literal empty"
  | .noCodeDigit => "invalid hexadecimal digit"
  | .noCharacter => "hexadecimal literal is not a Unicode scalar value"
  | .noProperty => "invalid Unicode character class"
  | .unclosedEdge =>
      "special word boundary assertion is either unclosed or contains an " ++
        "invalid character"
  | .unknownEdge =>
      "unrecognized special word boundary assertion, valid choices are: " ++
        "start, end, start-half or end-half"
  | .edgeAtEnd =>
      "found either the beginning of a special word boundary or a bounded " ++
        "repetition on a \\b with an opening brace, but no closing brace"
  | .lookAround =>
      "look-around, including look-ahead and look-behind, is not supported"
  | .unknownMode => "unrecognized flag"
  | .repeatedMode => "duplicate flag"
  | .repeatedHyphen => "flag negation operator repeated"
  | .danglingHyphen => "dangling flag negation operator"
  | .modesAtEnd => "expected flag but got end of regex"
  | .emptyName => "empty capture group name"
  | .badName => "invalid capture group character"
  | .unclosedName => "unclosed capture group name"
  | .repeatedName => "duplicate capture group name"
  | .nesting =>
      "exceed the maximum number of nested parentheses/brackets (" ++
        nestingLimit.repr ++ ")"
  | .beyondAscii => "Unicode not allowed here"
  | .loneOctet => "pattern can match invalid UTF-8"
  | .unknownProperty => "Unicode property not found"
  | .unknownPropertyValue => "Unicode property value not found"
  | .unknownClass =>
      "Unicode-aware Perl class not found " ++
        "(make sure the unicode-perl feature is enabled)"
  | .unknownCase =>
      "Unicode-aware case insensitivity matching is not available " ++
        "(make sure the unicode-case feature is enabled)"

structure PatternError where
  fault : PatternFault
  span : Span
  earlier : Option Span
  deriving DecidableEq

namespace PatternError

def spans (error : PatternError) : List Span :=
  match error.earlier with
  | none => [error.span]
  | some earlier =>
      if earlier.comesBefore error.span then [earlier, error.span]
      else [error.span, earlier]

def withoutReturn (line : List Char) : List Char :=
  if line.getLast? = some '\r' then line.dropLast else line

/-- Lines without their ends; a carriage return before a line feed belongs to
the end, and there is no line behind the last line feed. -/
def linesOf (text : String) : List (List Char) :=
  let pieces := (text.splitOn "\n").map String.toList
  pieces.dropLast.map withoutReturn ++
    (pieces.getLast?.filter (fun piece => !piece.isEmpty)).toList

/-- Marks under the columns of some spans of a line; a gap has one mark. -/
def marks (spans : List Span) : List Char :=
  spans.foldl
    (fun drawn span =>
      drawn ++
        List.replicate (span.first.column - 1 - drawn.length) ' ' ++
        List.replicate (max 1 (span.stop.column - span.first.column)) '^')
    []

def marked (margin : Nat) (spans : List Span) (line : Nat) : List String :=
  match spans.filter (fun span => span.inOneLine && span.first.line = line) with
  | [] => []
  | inLine =>
      [String.ofList (List.replicate margin ' ' ++ marks inLine)]

def plainMargin : Nat := 4

def ruleLength : Nat := 79

def numbered (width number : Nat) : String :=
  String.ofList (number.repr.toList.leftpad width ' ') ++ ": "

/-- A span over several lines in words; its end is the last column. -/
def inWords (span : Span) : String :=
  "on line " ++ span.first.line.repr ++ " (column " ++
    span.first.column.repr ++ ") through line " ++ span.stop.line.repr ++
    " (column " ++ (span.stop.column - 1).repr ++ ")"

/-- The lines that are reported before the fault itself. -/
def drawing (error : PatternError) (text : String) : List String :=
  if text.contains '\n' then
    let lines := linesOf text
    let count := lines.length + (if text.endsWith "\n" then 1 else 0)
    let width := count.repr.length
    let rule := String.ofList (List.replicate ruleLength '~')
    let shown := (lines.zipIdx 1).flatMap (fun (line, number) =>
      (numbered width number ++ String.ofList line) ::
        marked (width + 2) error.spans number)
    let wide := error.spans.filter (fun span => !span.inOneLine)
    [rule] ++ shown ++ [rule] ++ wide.map inWords
  else
    (String.ofList (List.replicate plainMargin ' ') ++ text) ::
      marked plainMargin error.spans 1

def message (error : PatternError) (text : String) : String :=
  String.intercalate "\n"
    (["regex parse error:"] ++ error.drawing text ++
      ["error: " ++ error.fault.message])

end PatternError

end FlashScript
