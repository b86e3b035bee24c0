/-
The filter that says which notes of a journal are shown.  It is written as
directives separated by commas: a severity for every topic, a topic, or a
topic with a severity.  After a slash there may be a pattern that the text of
a note must hold.  What can not be read is left out with a warning.
-/

import FlashScript.Journal
import FlashScript.Text.Characters
import FlashScript.Text.Pattern.Search

namespace FlashScript

/-- Notes up to `limit` in rank are shown; zero shows none.  A directive
without a target is for every topic. -/
structure Directive where
  target : Option String
  limit : Nat
  deriving DecidableEq

namespace Directive

def everything : Nat := Severity.trace.rank

/-- Letter case is left aside. -/
def limitNamed? (text : String) : Option Nat :=
  match text.toLower with
  | "off" => some 0
  | "error" => some Severity.error.rank
  | "warn" => some Severity.warn.rank
  | "info" => some Severity.info.rank
  | "debug" => some Severity.debug.rank
  | "trace" => some Severity.trace.rank
  | _ => none

/-- What is wrong is the part after the equals sign, if there is only one. -/
def read (part : String) : Except String Directive :=
  match part.splitOn "=" with
  | [only] =>
      match limitNamed? only with
      | some limit => .ok { target := none, limit := limit }
      | none => .ok { target := some only, limit := everything }
  | [target, written] =>
      let level := Blank.trimmed written
      if level.isEmpty then
        .ok { target := some target, limit := everything }
      else
        match limitNamed? level with
        | some limit => .ok { target := some target, limit := limit }
        | none => .error level
  | _ => .error part

def applies (directive : Directive) (topic : Topic) : Bool :=
  directive.target.all (fun target => target.isPrefixOf topic.target)

def length (directive : Directive) : Nat :=
  (directive.target.map String.utf8ByteSize).getD 0

end Directive

structure JournalFilter where
  directives : List Directive
  search : Option PatternSearch

/-- A filter as it was written, with what was left out of it. -/
structure WrittenFilter where
  filter : JournalFilter
  warnings : List String

namespace JournalFilter

/-- A directive takes the place of the one for the same target. -/
def insert (directives : List Directive) (directive : Directive) :
    List Directive :=
  if directives.any (fun other => other.target = directive.target) then
    directives.map (fun other =>
      if other.target = directive.target then directive else other)
  else directives ++ [directive]

/-- Of two directives that apply the one with the longer target decides, and
of two that are as long the later one. -/
def deciding? (directives : List Directive) (topic : Topic) :
    Option Directive :=
  (directives.filter (fun directive => directive.applies topic)).foldl
    (fun best directive =>
      if best.all (fun found => found.length ≤ directive.length) then
        some directive
      else best)
    none

/-- Without any directive errors are shown. -/
def limitFor (filter : JournalFilter) (topic : Topic) : Nat :=
  if filter.directives.isEmpty then Severity.error.rank
  else
    ((deciding? filter.directives topic).map Directive.limit).getD 0

/-- Whether a note is shown, and the filter with what its search remembers. -/
def examine (filter : JournalFilter) (note : Note) : Bool × JournalFilter :=
  if filter.limitFor note.topic < note.severity.rank then (false, filter)
  else
    match filter with
    | { directives, search := none } =>
        (true, { directives := directives, search := none })
    | { directives, search := some search } =>
        let (found, search) := search.foundIn note.text
        (found, { directives := directives, search := some search })

def selected (filter : JournalFilter) : List Note → List Note
  | [] => []
  | note :: later =>
      let (shown, filter) := filter.examine note
      let others := filter.selected later
      if shown then note :: others else others

def render (filter : JournalFilter) (notes : List Note) : String :=
  String.join ((filter.selected notes).map Note.render)

/-! ### The written form -/

def parts (text : String) : List String :=
  ((text.splitOn ",").map Blank.trimmed).filter (fun part => !part.isEmpty)

def refusal (spec : String) : String :=
  "warning: invalid logging spec '" ++ spec ++ "', ignoring it"

def severalSlashes (text : String) : String :=
  refusal text ++ " (too many '/'s)"

def patternWarning (text : String) (refusal : PatternRefusal) : String :=
  "warning: invalid regex filter - " ++ refusal.message text

def readDirectives (text : String) : WrittenFilter :=
  let readings := (parts text).map Directive.read
  { filter :=
      { directives := (readings.filterMap Except.toOption).foldl insert []
        search := none }
    warnings := readings.filterMap (fun reading =>
      match reading with
      | .ok _ => none
      | .error spec => some (refusal spec)) }

/-- A filter with more than one slash is left out as a whole. -/
def read (text : String) : WrittenFilter :=
  match text.splitOn "/" with
  | [directives] => readDirectives directives
  | [directives, written] =>
      let { filter, warnings } := readDirectives directives
      match PatternSearch.read written with
      | .ok search =>
          { filter := { filter with search := some search }
            warnings := warnings }
      | .error refusal =>
          { filter := filter
            warnings := warnings ++ [patternWarning written refusal] }
  | _ =>
      { filter := { directives := [], search := none }
        warnings := [severalSlashes text] }

end JournalFilter

def WrittenFilter.report (written : WrittenFilter) : String :=
  String.join (written.warnings.map (fun warning => warning ++ "\n"))

end FlashScript
