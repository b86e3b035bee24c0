/-
Written patterns as trees.  Every part knows its place in the text, because
what is wrong with a pattern may show only when its meaning is worked out.
-/

import FlashScript.Text.CharSet
import FlashScript.Text.Pattern.Fault

namespace FlashScript

/-- A character that stands for itself, or an octet written with two digits. -/
structure LiteralSign where
  span : Span
  character : Char
  isOctet : Bool
  deriving DecidableEq

/-- A condition as it is written; its meaning depends on the modes. -/
inductive LookSign where
  | lineStart
  | lineEnd
  | textStart
  | textEnd
  | wordEither
  | wordNeither
  | wordStart
  | wordStop
  | wordStartHalf
  | wordStopHalf
  deriving DecidableEq

/-- Classes that have a letter of their own. -/
inductive LetterClass where
  | digit
  | blank
  | word
  deriving DecidableEq

/-- Classes that have a name in brackets; all are of the ASCII range. -/
inductive NamedClass where
  | alnum
  | alpha
  | ascii
  | blank
  | cntrl
  | digit
  | graph
  | lower
  | print
  | punct
  | space
  | upper
  | word
  | xdigit
  deriving DecidableEq

namespace NamedClass

def name : NamedClass → String
  | .alnum => "alnum"
  | .alpha => "alpha"
  | .ascii => "ascii"
  | .blank => "blank"
  | .cntrl => "cntrl"
  | .digit => "digit"
  | .graph => "graph"
  | .lower => "lower"
  | .print => "print"
  | .punct => "punct"
  | .space => "space"
  | .upper => "upper"
  | .word => "word"
  | .xdigit => "xdigit"

def all : List NamedClass :=
  [.alnum, .alpha, .ascii, .blank, .cntrl, .digit, .graph, .lower, .print,
    .punct, .space, .upper, .word, .xdigit]

def ofName? (name : List Char) : Option NamedClass :=
  all.find? (fun named => named.name.toList = name)

def digits : CharSet.Run := ('0'.toNat, '9'.toNat)

def underscore : CharSet.Run := ('_'.toNat, '_'.toNat)

def runs : NamedClass → List CharSet.Run
  | .alnum => [digits, CharSet.upperLetters, CharSet.lowerLetters]
  | .alpha => [CharSet.upperLetters, CharSet.lowerLetters]
  | .ascii => [(0x00, 0x7F)]
  | .blank => [(0x09, 0x09), (0x20, 0x20)]
  | .cntrl => [(0x00, 0x1F), (0x7F, 0x7F)]
  | .digit => [digits]
  | .graph => [(0x21, 0x7E)]
  | .lower => [CharSet.lowerLetters]
  | .print => [(0x20, 0x7E)]
  | .punct => [(0x21, 0x2F), (0x3A, 0x40), (0x5B, 0x60), (0x7B, 0x7E)]
  | .space => [(0x09, 0x0D), (0x20, 0x20)]
  | .upper => [CharSet.upperLetters]
  | .word => [digits, CharSet.upperLetters, underscore, CharSet.lowerLetters]
  | .xdigit => [digits, ('A'.toNat, 'F'.toNat), ('a'.toNat, 'f'.toNat)]

end NamedClass

def LetterClass.named : LetterClass → NamedClass
  | .digit => .digit
  | .blank => .space
  | .word => .word

/-- A property by one name, or by a name and a value. -/
inductive PropertySign where
  | lone (name : List Char)
  | valued
  deriving DecidableEq

inductive SetOperation where
  | intersection
  | difference
  | symmetricDifference
  deriving DecidableEq

mutual

inductive ClassTree where
  | item (item : ClassItem)
  | operation (span : Span) (operation : SetOperation) (left right : ClassTree)

inductive ClassItem where
  | nothing (span : Span)
  | literal (sign : LiteralSign)
  | range (span : Span) (first last : LiteralSign)
  | named (span : Span) (named : NamedClass) (negated : Bool)
  | property (span : Span) (sign : PropertySign)
  | letter (span : Span) (letter : LetterClass) (negated : Bool)
  | bracketed (span : Span) (negated : Bool) (tree : ClassTree)
  | union (span : Span) (items : List ClassItem)

end

def ClassItem.span : ClassItem → Span
  | .nothing span => span
  | .literal sign => sign.span
  | .range span _ _ => span
  | .named span _ _ => span
  | .property span _ => span
  | .letter span _ _ => span
  | .bracketed span _ _ => span
  | .union span _ => span

def ClassTree.span : ClassTree → Span
  | .item only => only.span
  | .operation span _ _ _ => span

inductive GroupKind where
  /-- The groups that capture are counted from the first parenthesis on. -/
  | capturing (number : Nat)
  /-- With letters for modes; a hyphen turns those after it off. -/
  | plain (modes : List Char)
  deriving DecidableEq

inductive PatternTree where
  | nothing (span : Span)
  | modes (span : Span) (letters : List Char)
  | literal (sign : LiteralSign)
  | dot (span : Span)
  | look (span : Span) (sign : LookSign)
  | property (span : Span) (sign : PropertySign)
  | letter (span : Span) (letter : LetterClass) (negated : Bool)
  | bracketed (span : Span) (negated : Bool) (tree : ClassTree)
  /-- With a question mark behind the sign the repetition is lazy. -/
  | repetition (span : Span) (least : Nat) (most : Option Nat)
      (isLazy : Bool) (body : PatternTree)
  | group (span : Span) (kind : GroupKind) (body : PatternTree)
  | choice (span : Span) (alternatives : List PatternTree)
  | sequence (span : Span) (items : List PatternTree)

def PatternTree.span : PatternTree → Span
  | .nothing span => span
  | .modes span _ => span
  | .literal sign => sign.span
  | .dot span => span
  | .look span _ => span
  | .property span _ => span
  | .letter span _ _ => span
  | .bracketed span _ _ => span
  | .repetition span _ _ _ _ => span
  | .group span _ _ => span
  | .choice span _ => span
  | .sequence span _ => span

/-- What letters say about a mode: on, off or nothing. -/
def modeState? (letter : Char) (letters : List Char) : Option Bool :=
  match letters.findIdx? (fun other => other = letter) with
  | none => none
  | some index => some (!(letters.take index).contains '-')

/-! ### Nesting -/

/-- One level deeper, at a part of the text. -/
def deeper (depth : Nat) (span : Span) : Except PatternError Nat :=
  if nestingLimit < depth + 1 then
    .error { fault := .nesting, span := span, earlier := none }
  else .ok (depth + 1)

mutual

def ClassTree.checkNesting (depth : Nat) : ClassTree → Except PatternError Unit
  | .item only => only.checkNesting depth
  | .operation span _ left right => do
      let depth ← deeper depth span
      left.checkNesting depth
      right.checkNesting depth

def ClassItem.checkNesting (depth : Nat) : ClassItem → Except PatternError Unit
  | .bracketed span _ tree => do
      let depth ← deeper depth span
      tree.checkNesting depth
  | .union span items => do
      let depth ← deeper depth span
      ClassItem.checkAllNesting depth items
  | _ => .ok ()

def ClassItem.checkAllNesting (depth : Nat) :
    List ClassItem → Except PatternError Unit
  | [] => .ok ()
  | item :: later => do
      item.checkNesting depth
      ClassItem.checkAllNesting depth later

end

mutual

def PatternTree.checkNesting (depth : Nat) : PatternTree → Except PatternError Unit
  | .bracketed span _ tree => do
      let depth ← deeper depth span
      tree.checkNesting depth
  | .repetition span _ _ _ body => do
      let depth ← deeper depth span
      body.checkNesting depth
  | .group span _ body => do
      let depth ← deeper depth span
      body.checkNesting depth
  | .choice span alternatives => do
      let depth ← deeper depth span
      PatternTree.checkAllNesting depth alternatives
  | .sequence span items => do
      let depth ← deeper depth span
      PatternTree.checkAllNesting depth items
  | _ => .ok ()

def PatternTree.checkAllNesting (depth : Nat) :
    List PatternTree → Except PatternError Unit
  | [] => .ok ()
  | tree :: later => do
      tree.checkNesting depth
      PatternTree.checkAllNesting depth later

end

end FlashScript
