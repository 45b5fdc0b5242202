import Dalvik.Pattern.CharSet

/-!
Patterns with numbered groups, and the search for the first place where one matches. Alternatives
are tried in order and repetitions take as much as they can, giving back one repetition at a time,
so a pattern that matches does so in exactly one way.
-/

namespace Dalvik

inductive Pattern where
  | empty
  | one (chars : CharSet)
  /-- At least `least` characters of one set, as many as possible. -/
  | many (chars : CharSet) (least : Nat)
  | both (first second : Pattern)
  | either (first second : Pattern)
  /-- Between `least` and `most` repetitions, the longest first unless `lazy`. -/
  | repeated (body : Pattern) (least : Nat) (most : Option Nat) (lazy : Bool)
  | group (number : Nat) (body : Pattern)
  /-- The text that a group caught earlier. -/
  | again (number : Nat) (rule : CaseRule)
  | atStart
  | atLineStart
  /-- The end of the text, or the place before a line feed that ends it. -/
  | atEnd
  | atLineEnd
  | atVeryEnd
  /-- A place between a character of the set and one outside of it, or no such place. -/
  | edge (chars : CharSet) (present : Bool)
  | ahead (body : Pattern) (present : Bool)
  /-- The body ends here; it begins `width` characters before. -/
  | behind (width : Nat) (body : Pattern) (present : Bool)
  /-- The first way in which the body matches, never another. -/
  | settled (body : Pattern)
  /-- One of two patterns, as a group has caught something or has not. -/
  | ifCaught (number : Nat) (yes no : Pattern)
deriving Repr

namespace Pattern

/-- What a group caught: the text from where it began, and what was left where it ended. -/
structure Capture where
  start : List Char
  finish : List Char

def Capture.text (capture : Capture) : List Char :=
  capture.start.take (capture.start.length - capture.finish.length)

/-- Captures by the number of their group, the latest first. -/
abbrev Captures := List (Nat × Capture)

/-- A place in a text: what stands before it, reversed, what follows it, and what was caught. -/
structure Place where
  before : List Char
  rest : List Char
  captures : Captures

/-- A matcher finds the place where the rest of the pattern, `next`, ends. -/
abbrev Matcher := Place → (Place → Option Place) → Option Place

def orTry (first : Option Place) (second : Unit → Option Place) : Option Place :=
  match first with
  | some place => some place
  | none => second ()

def manyFrom (chars : CharSet) (captures : Captures) (next : Place → Option Place) :
    Nat → List Char → List Char → Option Place
  | least, before, [] =>
    if least = 0 then next ⟨before, [], captures⟩ else none
  | least, before, c :: rest =>
    let stop (_ : Unit) := if least = 0 then next ⟨before, c :: rest, captures⟩ else none
    if chars.accepts c then orTry (manyFrom chars captures next (least - 1) (c :: before) rest) stop
    else stop ()

/-- Repetition of a body. A repetition beyond the required ones has to begin at another place than
the one before it; `previous` is where that one began, as a number of characters left. -/
def repeatFrom (body : Matcher) (least : Nat) (most : Option Nat) (lazy : Bool)
    (next : Place → Option Place) : Nat → Nat → Option Nat → Place → Option Place
  | 0, _, _, _ => none
  | fuel + 1, count, previous, place =>
    let once (mark : Option Nat) :=
      body place fun place => repeatFrom body least most lazy next fuel (count + 1) mark place
    let here := some place.rest.length
    let allowed := most.all (count < ·) && previous != here
    if count < least then once previous
    else if lazy then orTry (next place) fun _ => if allowed then once here else none
    else if allowed then orTry (once here) fun _ => next place
    else next place

def dropText (rule : CaseRule) : List Char → Place → Option Place
  | [], place => some place
  | c :: text, place =>
    match place.rest with
    | d :: rest =>
      if rule.small c = rule.small d then
        dropText rule text { place with before := d :: place.before, rest := rest }
      else none
    | [] => none

/-- Whether there is an edge of a run of characters; an empty text has neither edges nor places
without one. -/
def Place.hasEdge (place : Place) (chars : CharSet) (present : Bool) : Bool :=
  !(place.before.isEmpty && place.rest.isEmpty) &&
    (place.before.head?.any chars.accepts != place.rest.head?.any chars.accepts) == present

/-- The place a number of characters before, if there are as many. -/
def Place.back : Nat → Place → Option Place
  | 0, place => some place
  | count + 1, place =>
    match place.before with
    | c :: before => Place.back count { place with before := before, rest := c :: place.rest }
    | [] => none

def run : Pattern → Matcher
  | .empty => fun place next => next place
  | .one chars => fun place next =>
    match place.rest with
    | c :: rest =>
      if chars.accepts c then next { place with before := c :: place.before, rest := rest }
      else none
    | [] => none
  | .many chars least => fun place next =>
    manyFrom chars place.captures next least place.before place.rest
  | .both first second => fun place next =>
    run first place fun middle => run second middle next
  | .either first second => fun place next =>
    orTry (run first place next) fun _ => run second place next
  | .repeated body least most lazy => fun place next =>
    repeatFrom (run body) least most lazy next (least + place.rest.length + 2) 0 none place
  | .group number body => fun place next =>
    run body place fun after =>
      next { after with captures := (number, ⟨place.rest, after.rest⟩) :: after.captures }
  | .again number rule => fun place next =>
    ((place.captures.lookup number).bind (dropText rule ·.text place)).bind next
  | .atStart => fun place next => if place.before.isEmpty then next place else none
  | .atLineStart => fun place next =>
    if place.before.head?.all (· == '\n') then next place else none
  | .atEnd => fun place next =>
    if place.rest.isEmpty || place.rest == ['\n'] then next place else none
  | .atLineEnd => fun place next =>
    if place.rest.head?.all (· == '\n') then next place else none
  | .atVeryEnd => fun place next => if place.rest.isEmpty then next place else none
  | .edge chars present => fun place next =>
    if place.hasEdge chars present then next place else none
  | .ahead body present => fun place next =>
    match run body place some, present with
    | some after, true => next { place with captures := after.captures }
    | none, false => next place
    | _, _ => none
  | .behind width body present => fun place next =>
    match (place.back width).bind (run body · some), present with
    | some after, true => next { place with captures := after.captures }
    | none, false => next place
    | _, _ => none
  | .settled body => fun place next => (run body place some).bind next
  | .ifCaught number yes no => fun place next =>
    if (place.captures.lookup number).isSome then run yes place next else run no place next

/-- The place where the pattern ends if it begins at the start of the text. -/
def matchStart (pattern : Pattern) (text : String) : Option Place :=
  pattern.run ⟨[], text.toList, []⟩ some

def searchFrom (pattern : Pattern) (before : List Char) : List Char → Option Place
  | [] => pattern.run ⟨before, [], []⟩ some
  | c :: rest =>
    orTry (pattern.run ⟨before, c :: rest, []⟩ some) fun _ =>
      searchFrom pattern (c :: before) rest

/-- Whether a pattern matches nowhere but at the start of the text. -/
def anchored : Pattern → Bool
  | .atStart => true
  | .both first _ => first.anchored
  | .either first second => first.anchored && second.anchored
  | .group _ body | .settled body => body.anchored
  | _ => false

/-- The first place in the text where the pattern matches. -/
def search (pattern : Pattern) (text : String) : Option Place :=
  if pattern.anchored then pattern.matchStart text else pattern.searchFrom [] text.toList

/-- The number of groups, which are numbered from one. -/
def groupCount : Pattern → Nat
  | .group number body => max number body.groupCount
  | .both first second | .either first second | .ifCaught _ first second =>
    max first.groupCount second.groupCount
  | .repeated body _ _ _ | .ahead body _ | .behind _ body _ | .settled body => body.groupCount
  | _ => 0

def Place.group? (place : Place) (number : Nat) : Option String :=
  (place.captures.lookup number).map fun capture => String.ofList capture.text

/-- What each of the first `count` groups caught. -/
def Place.groups (place : Place) (count : Nat) : List (Option String) :=
  (List.range count).map fun index => place.group? (index + 1)

/-- The groups of the first match in a text. -/
def groupsIn (pattern : Pattern) (text : String) : Option (List (Option String)) :=
  (pattern.search text).map (·.groups pattern.groupCount)

def ofText (text : List Char) (last : Pattern) : Pattern :=
  text.foldr (fun c rest => .both (.one (.only c)) rest) last

/-- A fixed text. -/
def text (fixed : String) : Pattern :=
  ofText fixed.toList .empty

def sequence (parts : List Pattern) : Pattern :=
  parts.foldr .both .empty

def optional (body : Pattern) : Pattern :=
  .either body .empty

end Pattern

end Dalvik
