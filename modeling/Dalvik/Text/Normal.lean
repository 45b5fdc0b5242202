import Dalvik.Text.Digit
import Dalvik.Text.Normal.Forms

/-!
Normal forms of names. Variants of a letter count as the letter, marks on a letter come in a fixed
order, and a letter with a mark is one character where there is one.
-/

namespace Dalvik.Text

/-- The numbers of each entry of a table. -/
def tableEntries (rows : List String) : List (List Nat) :=
  (rows.flatMap (·.splitOn ";")).map fun entry => (entry.splitOn " ").map hexNumber

/-- The number that a table of runs gives for a code point, and its distance from the first of the
run. -/
def inRuns (table : List (List Nat)) (code : Nat) : Option (Nat × Nat) :=
  table.findSome? fun
    | [first, last, value] =>
      if first ≤ code && code ≤ last then some (value, code - first) else none
    | _ => none

/-- The numbers that a table of rows gives for a code point. -/
def inRows (rows : List String) (code : Nat) : Option (List Nat) :=
  (rows.flatMap (·.splitOn ";")).findSome? fun row =>
    match row.splitOn "," with
    | [] => none
    | first :: parts =>
      if hexNumber first ≤ code then
        parts[code - hexNumber first]?.map fun part => (part.splitOn " ").map hexNumber
      else none

/-! ### Syllables that are made of letters by a rule -/

def firstSyllable : Nat := 0xac00

def firstLead : Nat := 0x1100

def firstVowel : Nat := 0x1161

/-- The place before the first trailing consonant. -/
def noTrail : Nat := 0x11a7

def leadCount : Nat := 19

def vowelCount : Nat := 21

def trailCount : Nat := 28

def syllableCount : Nat := leadCount * vowelCount * trailCount

/-- Lead, vowel and trailing consonant of a syllable, the last as zero if there is none. -/
def syllableParts (index : Nat) : List Nat :=
  let trail := index % trailCount
  [firstLead + index / (vowelCount * trailCount),
    firstVowel + index % (vowelCount * trailCount) / trailCount] ++
    (if trail = 0 then [] else [noTrail + trail])

/-- The syllable of a lead and a vowel, or of a syllable without trail and a trail. -/
def joinSyllable (left right : Nat) : Option Nat :=
  if firstLead ≤ left && left < firstLead + leadCount && firstVowel ≤ right &&
      right < firstVowel + vowelCount then
    some (firstSyllable + ((left - firstLead) * vowelCount + (right - firstVowel)) * trailCount)
  else if firstSyllable ≤ left && left < firstSyllable + syllableCount &&
      (left - firstSyllable) % trailCount = 0 && noTrail < right &&
      right < noTrail + trailCount then
    some (left + (right - noTrail))
  else none

/-! ### Taking apart, putting in order, and putting together -/

/-- The characters that a character is made of, in the end. -/
def partsOf (code : Nat) : List Nat :=
  if code < 128 then [code]
  else if firstSyllable ≤ code && code < firstSyllable + syllableCount then
    syllableParts (code - firstSyllable)
  else
    match inRuns (tableEntries variantRuns) code with
    | some (first, distance) => [first + distance]
    | none => (inRows letterParts code).getD [code]

/-- The class of a mark; zero for what is no mark. -/
def markClass (code : Nat) : Nat :=
  if code < 128 then 0 else ((inRuns (tableEntries markClasses) code).map Prod.fst).getD 0

/-- A character with the class that orders it among marks. -/
abbrev Marked := Nat × Nat

/-- Puts a mark in front of marks of a higher class. -/
def insertMark (mark : Marked) : List Marked → List Marked
  | [] => [mark]
  | other :: rest =>
    if mark.2 < other.2 then mark :: other :: rest else other :: insertMark mark rest

/-- Marks after one letter come by their class; those of one class keep their order. -/
def orderMarks (marks : List Marked) : List Marked → List Marked
  | [] => marks
  | next :: rest =>
    if next.2 = 0 then marks ++ next :: orderMarks [] rest
    else orderMarks (insertMark next marks) rest

/-- What a letter makes with a mark, given the letters that take the mark and what each makes. -/
def wholeOf (letter : Nat) : List Nat → Option Nat
  | first :: whole :: rest => if first = letter then some whole else wholeOf letter rest
  | _ => none

def joinPair (marks : List (List Nat)) (left right : Nat) : Option Nat :=
  (joinSyllable left right).or
    (marks.findSome? fun
      | mark :: letters => if mark = right then wholeOf left letters else none
      | [] => none)

/-- Joins a letter with the marks behind it; `kept` are those that it does not take, the last one
first, and `last` is the class of that one. -/
def joinMarks (marks : List (List Nat)) (letter : Nat) (kept : List Nat) (last : Nat) :
    List Marked → List Nat
  | [] => letter :: kept.reverse
  | (code, rank) :: rest =>
    let joined := if kept.isEmpty || last < rank then joinPair marks letter code else none
    match joined with
    | some whole => joinMarks marks whole kept last rest
    | none =>
      if rank = 0 then letter :: kept.reverse ++ joinMarks marks code [] 0 rest
      else joinMarks marks letter (code :: kept) rank rest

def normalCodes (codes : List Nat) : List Nat :=
  let marked := (codes.flatMap partsOf).map fun code => (code, markClass code)
  match orderMarks [] marked with
  | [] => []
  | (first, _) :: rest => joinMarks (tableEntries markedLetters) first [] 0 rest

/-- The normal form of a name. -/
def normalName (name : List Char) : List Char :=
  if name.all (·.toNat < 128) then name
  else (normalCodes (name.map Char.toNat)).map Char.ofNat

end Dalvik.Text
