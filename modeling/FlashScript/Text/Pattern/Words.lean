/-
Patterns that are found where one of a few words is found.  The words that
matches begin with are worked out as far as they stay few and short; if they
turn out to be all that is needed, they can take the place of the pattern.
-/

import FlashScript.Text.Pattern
import FlashScript.Text.Utf8

namespace FlashScript

/-! ### How common octets are

From 0 for what is rare in texts and other files to 255 for what is most common. -/

namespace OctetRank

def ranks : Array Nat :=
  #[55, 52, 51, 50, 49, 48, 47, 46, 45, 103, 242, 66, 67, 229, 44, 43,
    42, 41, 40, 39, 38, 37, 36, 35, 34, 33, 56, 32, 31, 30, 29, 28,
    255, 148, 164, 149, 136, 160, 155, 173, 221, 222, 134, 122, 232, 202, 215, 224,
    208, 220, 204, 187, 183, 179, 177, 168, 178, 200, 226, 195, 154, 184, 174, 126,
    120, 191, 157, 194, 170, 189, 162, 161, 150, 193, 142, 137, 171, 176, 185, 167,
    186, 112, 175, 192, 188, 156, 140, 143, 123, 133, 128, 147, 138, 146, 114, 223,
    151, 249, 216, 238, 236, 253, 227, 218, 230, 247, 135, 180, 241, 233, 246, 244,
    231, 139, 245, 243, 251, 235, 201, 196, 240, 214, 152, 182, 205, 181, 127, 27,
    212, 211, 210, 213, 228, 197, 169, 159, 131, 172, 105, 80, 98, 96, 97, 81,
    207, 145, 116, 115, 144, 130, 153, 121, 107, 132, 109, 110, 124, 111, 82, 108,
    118, 141, 113, 129, 119, 125, 165, 117, 92, 106, 83, 72, 99, 93, 65, 79,
    166, 237, 163, 199, 190, 225, 209, 203, 198, 217, 219, 206, 234, 248, 158, 239]

def highest : Nat := 255

/-- The octets behind the table begin characters of two octets or more, or are
in no text. -/
def rank (octet : UInt8) : Nat :=
  ranks.getD octet.toNat highest

end OctetRank

/-! ### Words -/

/-- A word that matches begin with; it is exact if they end with it too. -/
structure SearchWord where
  octets : List UInt8
  exact : Bool
  deriving DecidableEq

namespace SearchWord

def blank : SearchWord :=
  { octets := []
    exact := true }

def loosen (word : SearchWord) : SearchWord :=
  { word with exact := false }

/-- The first octets; what is cut is not exact. -/
def cut (count : Nat) (word : SearchWord) : SearchWord :=
  if word.octets.length ≤ count then word
  else { octets := word.octets.take count, exact := false }

def append (word later : SearchWord) : SearchWord :=
  { octets := word.octets ++ later.octets
    exact := later.exact }

end SearchWord

/-- The words that matches begin with in the order in which they are tried, or
nothing if they are too many or not known. -/
abbrev SearchWords := Option (List SearchWord)

namespace SearchWords

def setLimit : Nat := 10

def copyLimit : Nat := 10

def lengthLimit : Nat := 100

def countLimit : Nat := 250

def shortLength : Nat := 4

def nothing : SearchWords :=
  some [SearchWord.blank]

def isExact : SearchWords → Bool
  | some words => words.all SearchWord.exact
  | none => false

/-- No word goes on, so that nothing can be added to one. -/
def isLoose : SearchWords → Bool
  | some words => words.all (fun word => !word.exact)
  | none => true

def loosen (words : SearchWords) : SearchWords :=
  words.map (fun words => words.map SearchWord.loosen)

/-- Neighbours with the same octets are one word. -/
def mergeEqual (words : List SearchWord) : List SearchWord :=
  words.foldr
    (fun word later =>
      match later with
      | [] => [word]
      | next :: others =>
          if word.octets = next.octets then
            { next with exact := word.exact && next.exact } :: others
          else word :: later)
    []

def cut (count : Nat) (words : SearchWords) : SearchWords :=
  words.map (fun words => words.map (SearchWord.cut count))

def joinAll (words others : List SearchWord) : SearchWords :=
  if countLimit < words.length + others.length then none
  else some (mergeEqual (words ++ others))

def join : SearchWords → SearchWords → SearchWords
  | some words, some others =>
      if countLimit < words.length + others.length then
        let short (words : List SearchWord) : List SearchWord :=
          mergeEqual (words.map (SearchWord.cut shortLength))
        joinAll (short words) (short others)
      else joinAll words others
  | _, _ => none

def followedBy : SearchWords → SearchWords → SearchWords
  | none, _ => none
  | some words, later =>
      let few := later.filter (fun others =>
        words.length * others.length ≤ countLimit)
      match few with
      | none =>
          if words.any (fun word => word.octets.isEmpty) then none
          else cut lengthLimit (loosen (some words))
      | some others =>
          cut lengthLimit (some (mergeEqual (words.flatMap (fun word =>
            if word.exact then others.map word.append else [word]))))

def copies (words : SearchWords) : Nat → SearchWords → SearchWords
  | 0, before => before
  | count + 1, before =>
      if before.isLoose then before
      else copies words count (before.followedBy words)

/-- Words of a repetition; what is tried first comes first. -/
def repeated (words : SearchWords) (least : Nat) (most : Option Nat)
    (greedy : Bool) : SearchWords :=
  if least = 0 then
    let once := if most = some 1 then words else loosen words
    if greedy then join once nothing else join nothing once
  else
    let all := copies words (min least copyLimit) nothing
    if most = some least && least ≤ copyLimit then all else loosen all

def ofText (text : List Char) : SearchWords :=
  cut lengthLimit
    (some [{ octets := (String.ofList text).toUTF8.toList, exact := true }])

def ofSet (set : CharSet) : SearchWords :=
  let count := set.runs.foldl (fun sum run => sum + (run.2 + 1 - run.1)) 0
  if setLimit < count then none
  else
    some (set.runs.flatMap (fun run =>
      (List.range (run.2 + 1 - run.1)).map (fun index =>
        { octets := (String.singleton (Char.ofNat (run.1 + index))).toUTF8.toList
          exact := true })))

/-- Conditions are left aside. -/
def ofPattern : Pattern → SearchWords
  | .empty => nothing
  | .look _ => nothing
  | .literal text => ofText text
  | .one set => ofSet set
  | .repetition body least most greedy =>
      repeated (ofPattern body) least most greedy
  | .capture _ body => ofPattern body
  | .sequence first second =>
      let before := ofPattern first
      if before.isLoose then before else followedSequence before second
  | .choice left right =>
      match ofPattern left with
      | none => none
      | words => joinChoice words right
where
  /-- The words of a sequence behind others. -/
  followedSequence (before : SearchWords) : Pattern → SearchWords
    | .sequence first second =>
        let before := before.followedBy (ofPattern first)
        if before.isLoose then before else followedSequence before second
    | other => before.followedBy (ofPattern other)
  joinChoice (before : SearchWords) : Pattern → SearchWords
    | .choice left right =>
        match before.join (ofPattern left) with
        | none => none
        | words => joinChoice words right
    | other => before.join (ofPattern other)

/-! ### Choosing words to look for -/

/-- Leaves out the words that begin with an earlier one. -/
def leaveOutLonger (stayExact : Bool) (words : List SearchWord) : List SearchWord :=
  words.foldl
    (fun kept word =>
      match kept.findIdx? (fun other => other.octets.isPrefixOf word.octets) with
      | none => kept ++ [word]
      | some index => if stayExact then kept else kept.modify index SearchWord.loosen)
    []

def sharedLength : List SearchWord → Nat
  | [] => 0
  | first :: later =>
      later.foldl
        (fun shared word =>
          ((first.octets.take shared).zip word.octets).takeWhile
            (fun pair => pair.1 = pair.2) |>.length)
        first.octets.length

/-- How many octets are kept of words that are more than so many. -/
def shortenings : List (Nat × Nat) :=
  [(5, 10), (4, 10), (3, 64), (2, 64), (1, 10)]

/-- Words are shortened as long as they are too many. -/
def shorten (words : List SearchWord) : List SearchWord :=
  (shortenings.foldl
    (fun (words, done) (kept, many) =>
      if done || words.length ≤ many then (words, true)
      else (leaveOutLonger false (words.map (SearchWord.cut kept)), false))
    (words, false)).1

def isCommon (word : SearchWord) : Bool :=
  match word.octets with
  | [octet] => 250 ≤ OctetRank.rank octet
  | octets => octets.isEmpty

/-- Whether words are good to look for instead of longer ones. -/
def areTelling (words : List SearchWord) : Bool :=
  !words.any isCommon && words.all (fun word => 2 < word.octets.length) &&
    !words.isEmpty && words.length ≤ 64

/-- Words that begin with one octet that is rare are looked for by that octet. -/
def isRareFirst (shared : Nat) (words : List SearchWord) : Bool :=
  1 ≤ shared && shared ≤ 3 &&
    (words.head?.bind (fun word => word.octets.head?)).any (fun octet =>
      OctetRank.rank octet < 200)

/-- Whether what words share is looked for instead of them. -/
def isSharedTelling (shared : Nat) (words : List SearchWord) : Bool :=
  4 < shared ||
    (1 < shared && !(isExact (some words) && words.length ≤ 16))

/-- What is looked for instead of words that are all of a match.  It is exact
if it is still the words themselves. -/
def chosen (words : List SearchWord) : List SearchWord :=
  let distinct := leaveOutLonger true words
  let shared := sharedLength distinct
  if 1 < words.length && isRareFirst shared distinct then
    mergeEqual (distinct.map (SearchWord.cut 1))
  else
    let distinct :=
      if isSharedTelling shared distinct then
        mergeEqual (distinct.map (SearchWord.cut shared))
      else distinct
    let shortened := shorten distinct
    if isExact (some distinct) && !areTelling shortened then distinct
    else shortened

end SearchWords

namespace Pattern

def words? (pattern : Pattern) : Option (List (List UInt8)) :=
  if pattern.hasCapture || pattern.hasLook then none
  else
    match SearchWords.ofPattern pattern with
    | none => none
    | some words =>
        if words.any (fun word => word.octets.isEmpty) then none
        else
          let words := SearchWords.chosen (SearchWords.mergeEqual words)
          if words.isEmpty || !words.all SearchWord.exact then none
          else some (words.map SearchWord.octets)

def ofWords? (words : List (List UInt8)) : Option Pattern :=
  (words.mapM Utf8.decode?).map (fun texts =>
    branches (texts.map (fun text => .literal text.toList)))

/-- The words that are found where a pattern is found, as a pattern. -/
def asWords? (pattern : Pattern) : Option Pattern :=
  pattern.words?.bind ofWords?

end Pattern

end FlashScript
