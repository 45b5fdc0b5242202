import Dalvik.Expr.Literal
import Dalvik.Machine.Basic
import Dalvik.Pattern.Reader
import Dalvik.Text.Parts

/-!
The tables that a listing declares. Lines that begin with a colon are labels, except for three
kinds of header: one that opens a guarded block, one that opens the cases of a switch, and one that
opens constant data. Cases and data extend to the directive that ends them; nothing inside them is
a label.
-/

namespace Dalvik.Listing

inductive Header where
  | guarded
  | switch
  | array
deriving DecidableEq, Repr

def Header.opening : Header → String
  | .guarded => ":try_start_"
  | .switch => ":pswitch_data"
  | .array => ":array_"

def Header.opens (header : Header) (line : String) : Bool :=
  Text.beginsWith header.opening line

def header? (line : String) : Option Header :=
  [Header.guarded, .switch, .array].find? (·.opens line)

/-- The directive that names the handler of a guarded block, for the block with the given mark. -/
def catchDirective (mark : String) : String :=
  "^\\.catch [^\\s]+ \\\x7b:try_start_" ++ mark ++ "[ \\.]+:try_end_" ++ mark ++ "\\\x7d\\s*(\\:.+)"

/-- The first line with the directive, and the handler that it names. A mark may leave the
directive without a place for the name of the handler. -/
def findCatch (directive : Pattern) (index : Nat) :
    List String → Except Fault (Option (Nat × Option String))
  | [] => .ok none
  | line :: rest =>
    match directive.search line with
    | some place =>
      if directive.groupCount = 0 then .error .noSuchGroup
      else .ok (some (index, place.group? 1))
    | none => findCatch directive (index + 1) rest

def misprintFault (written : String) (misprint : Pattern.Misprint) : Fault :=
  match misprint.defect with
  | .tooManyRepetitions => .repetitionTooLarge
  | .numeralTooLong digits => .numeralTooLong digits
  | _ => .badPattern (misprint.message written)

/-- The mark of a guarded block is what follows the second underscore, up to the third. -/
def markOf (line : String) : Except Fault String :=
  match (Text.split '_' line)[2]? with
  | some mark => .ok mark
  | none => .error (.outOfRange .list)

/-- The guarded block that begins on a line, if a directive names its handler. -/
def catchBlock? (index : Nat) (line : String) (following : List String) :
    Except Fault (Option CatchBlock) := do
  let mark ← markOf line
  if following.isEmpty then return none
  let written := catchDirective mark
  let directive ← (Pattern.ofString written).mapError (misprintFault written)
  let found ← findCatch directive (index + 1) following
  return found.map fun (last, handler) => ⟨index, last, handler⟩

def declareGuarded (machine : Machine) (index : Nat) (line : String) (following : List String) :
    Except Fault Machine := do
  let block? ← catchBlock? index line following
  return { machine with catchBlocks := machine.catchBlocks ++ block?.toList }

/-- The first word behind the name of a directive. -/
def firstWord (line : String) : String :=
  (Text.split ' ' line)[1]?.getD ""

/-- Contents of a block, and the line of the directive that ends it. -/
structure Contents (α : Type) where
  value : α
  heap : Heap
  last : Option Nat

def readCases (heap : Heap) (switch : Switch) (index : Nat) :
    List String → Except Halt (Contents Switch)
  | [] => .ok ⟨switch, heap, none⟩
  | line :: rest =>
    if Text.beginsWith ".packed-switch " line then do
      let (first, heap) ← Expr.readLiteral heap (firstWord line)
      readCases heap { switch with first := first } (index + 1) rest
    else if Text.beginsWith ":pswitch_" line then
      readCases heap { switch with cases := switch.cases ++ [line] } (index + 1) rest
    else if line = ".end packed-switch" then .ok ⟨switch, heap, some index⟩
    else
      .error (.fatal ("Unexpected line '" ++ line ++ "' while preprocessing packed-switch."))

/-- The width of the elements, and the elements. -/
abbrev ArrayContents := Value × List Value

def readElements (heap : Heap) (width : Value) (elements : List Value) (index : Nat) :
    List String → Except Fault (Contents ArrayContents)
  | [] => .ok ⟨(width, elements), heap, none⟩
  | line :: rest =>
    if Text.beginsWith ".array-data " line then do
      let (width, heap) ← Expr.readLiteral heap (firstWord line)
      readElements heap width elements (index + 1) rest
    else if line = ".end array-data" then .ok ⟨(width, elements), heap, some index⟩
    else do
      let (element, heap) ← Expr.readLiteral heap line
      readElements heap width (elements ++ [element]) (index + 1) rest

def declareSwitch (machine : Machine) (index : Nat) (line : String) (following : List String) :
    Except Halt (Machine × Option Nat) := do
  let contents ← readCases machine.heap ⟨.int 0, []⟩ (index + 1) following
  let switches := machine.switches.insert line contents.value
  return ({ machine with heap := contents.heap, switches := switches }, contents.last)

def declareArray (machine : Machine) (index : Nat) (line : String) (following : List String) :
    Except Fault (Machine × Option Nat) := do
  let contents ← readElements machine.heap (.int 0) [] (index + 1) following
  let (width, elements) := contents.value
  let (ref, heap) := contents.heap.alloc elements
  let arrays := machine.arrays.insert line ⟨width, ref⟩
  return ({ machine with heap := heap, arrays := arrays }, contents.last)

/-- Declares what a header opens; gives the last line that belongs to the header, if the header has
contents of its own. -/
def declareBlock (header : Header) (machine : Machine) (index : Nat) (line : String)
    (following : List String) : Except Halt (Machine × Option Nat) :=
  match header with
  | .guarded => do return (← declareGuarded machine index line following, none)
  | .switch => do
    let (machine, last) ← declareSwitch machine index line following
    return (machine, some (last.getD index))
  | .array => do
    let (machine, last) ← declareArray machine index line following
    return (machine, some (last.getD index))

/-- Declares what a line outside of cases and data stands for. -/
def declare (machine : Machine) (index : Nat) (line : String) (following : List String) :
    Except Halt (Machine × Option Nat) :=
  if Text.beginsWith ":" line then
    match header? line with
    | some header => declareBlock header machine index line following
    | none => .ok ({ machine with labels := machine.labels.insert line index }, none)
  else .ok (machine, none)

/-- Goes through the lines from `index` on, passing over those before `resume`. -/
def scanFrom (machine : Machine) (index resume : Nat) : List String → Machine × Option Halt
  | [] => (machine, none)
  | line :: rest =>
    if index < resume then scanFrom machine (index + 1) resume rest
    else
      match declare machine index line rest with
      | .error halt => (machine, some halt)
      | .ok (machine, last) => scanFrom machine (index + 1) (last.getD index + 1) rest

/-- Declares all that the lines stand for; stops at the first line that cannot be declared. -/
def scan (machine : Machine) (lines : List String) : Machine × Option Halt :=
  scanFrom machine 0 0 lines

/-- Blank lines, comments, labels and directives are no instructions. -/
def isPassive (line : String) : Bool :=
  match line.toList with
  | [] => true
  | c :: _ => c == '#' || c == ':' || c == '.'

end Dalvik.Listing
