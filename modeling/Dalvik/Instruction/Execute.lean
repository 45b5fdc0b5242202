import Dalvik.Expr.Eval
import Dalvik.Instruction.Basic
import Dalvik.Library.Call
import Dalvik.Text.Parts

/-!
What instructions do to the machine. Operands are read from left to right in the order given here;
the first one that is missing decides which fault is raised.
-/

namespace Dalvik

namespace Machine

def literal (machine : Machine) (text : String) : Except Fault (Value × Heap) :=
  Expr.readLiteral machine.heap text

end Machine

namespace Arithmetic

def apply (operation : Arithmetic) (heap : Heap) (left right : Value) :
    Except Fault (Value × Heap) :=
  match operation with
  | .add => left.operate heap .add right
  | .sub => left.operate heap .sub right
  | .mul => left.operate heap .mul right
  | .div => left.operate heap .div right
  | .rem => left.operate heap .mod right
  | .and => left.operate heap .and right
  | .or => left.operate heap .or right

end Arithmetic

namespace Instruction

/-- A single character counts as its code point. -/
def numberOrCode (value : Value) : Except Fault Value :=
  match value.asInt? with
  | some n => .ok (.int n)
  | none => value.codePoint.map .int

/-- What the names in a written expression stand for. -/
def writtenScope (target source literal : String) : Expr.Scope :=
  [("vx", .text target), ("vy", .text source), ("lit", .text literal),
    ("vm", .outside "VM" "<VM>")]

/-- The sum or product that is written out to be evaluated. -/
def writtenText (machine : Machine) (source literal symbol : String) : Except Fault String := do
  let text ← (← machine.read source).plain machine.heap
  return text ++ " " ++ symbol ++ " " ++ literal

/-- The text that an instruction evaluates, if it comes to that. -/
def evaluated? (machine : Machine) : Instruction → Option String
  | .literalArithmetic .add _ source literal => (writtenText machine source literal "+").toOption
  | .literalArithmetic .mul _ source literal => (writtenText machine source literal "*").toOption
  | _ => none

/-- Sums and products with a literal are made by writing the expression and evaluating it. -/
def written (machine : Machine) (target source literal symbol : String) :
    Except Fault (Value × Heap) := do
  Expr.evaluate (writtenScope target source literal) machine.heap
    (← writtenText machine source literal symbol)

def literalResult (machine : Machine) (operation : LiteralArithmetic)
    (target source literal : String) : Except Fault (Value × Heap) :=
  match operation with
  | .add => written machine target source literal "+"
  | .mul => written machine target source literal "*"
  | .div => do
    let left ← machine.read source
    let (right, heap) ← machine.literal literal
    left.operate heap .div right
  | .rem => do
    let left ← (← machine.read source).toInt
    let (right, heap) ← machine.literal literal
    (Value.int left).operate heap .mod right
  | .and => do
    let left ← (← machine.read source).toInt
    let (right, heap) ← machine.literal literal
    (Value.int left).operate heap .and right
  | .xor => do
    let left ← numberOrCode (← machine.read source)
    let (right, heap) ← machine.literal literal
    left.operate heap .xor right
  | .shl => do
    let left ← machine.read source
    let (right, heap) ← machine.literal literal
    left.operate heap .shl right

/-- The low eight bits of a number, as a character. -/
def lowChar (value : Value) : Except Fault Value :=
  match value.asInt? with
  | some n => .ok (Value.ofChar (Char.ofNat (Number.bitAnd n 0xff).toNat))
  | none => .error (.unsupportedOperands "&" value.kind .int)

/-- A number moved up by three bytes and back again. -/
def byteOf (value : Value) : Except Fault Value :=
  match value.asInt? with
  | some n => .ok (.int (Number.shiftRight (Number.shiftLeft n 24) 24))
  | none => .error (.unsupportedOperands "<<" value.kind .int)

/-- Writes an item of an array, or adds it right behind the last one. -/
def storeItem (heap : Heap) (array : Value) (index : Int) (item : Value) : Except Fault Heap := do
  let length ← array.length heap
  if index < length then array.assign heap index item
  else if index = length then array.append heap item
  else return heap

/-- The case of a switch that belongs to a value. -/
def caseOf (heap : Heap) (switch? : Option Switch) (value : Value) :
    Except Fault (Option String) := do
  let cases := (switch?.map (·.cases)).getD []
  let first := (switch?.map (·.first)).getD .null
  let (index, heap) ← value.operate heap .sub first
  if ← index.compare heap .ge (.int cases.length) then return none
  if ← index.compare heap .lt (.int 0) then return none
  let label ← Value.itemAt .list cases index
  return some label

/-- Class and method of a callee, which are written with `;->` between them. -/
def calleeParts (callee : String) : Except Fault (String × String) :=
  let arrow := [';', '-', '>']
  match Text.cut arrow callee.toList with
  | none => .error (.tooFewParts 1)
  | some (descriptor, signature) =>
    match Text.cut arrow signature with
    | none => .ok (String.ofList descriptor, String.ofList signature)
    | some _ => .error .tooManyParts

open Dalvik.Action

/-- Stops the program with the value of a register. -/
def leaveWith (register : String) : Action Unit := do
  give (← fetch register)
  stop

def leave (kind source : Option String) : Action Unit :=
  match kind, source with
  | none, none | some "-void", _ => do
    give .null
    stop
  | none, some register => leaveWith register
  | some "-wide", some register | some "-object", some register => leaveWith register
  | some "-wide", none | some "-object", none => throw (.fault (.missing "None"))
  | some _, _ => throw (.fatal "Unsupported return type.")

def narrow (kind target source : String) : Action Unit :=
  match kind with
  | "char" => do store target (← lowChar (← fetch source))
  | "byte" => do store target (← byteOf (← fetch source))
  | _ => throw (.fatal ("Unsupported type '" ++ kind ++ "' ."))

def execute : Instruction → Action Unit
  | .const target literal => do
    storeFrom target (← (← get).literal literal)
  | .constString _ _ => throw (.fault (.noAttribute .text "decode"))
  | .move target source => do
    store target (← fetch source)
  | .moveResult target => do
    store target (← get).result
  | .moveException target => do
    let thrown ← takePending
    store target (.raised thrown.cause thrown.serial)
  | .branch test left right label => do
    let x ← fetch left
    let y ← fetch right
    if ← x.compare (← get).heap test y then jump label
  | .branchZero test source label => do
    let x ← fetch source
    if ← x.compare (← get).heap test (.int 0) then jump label
  | .goto label => jump label
  | .packedSwitch source table => do
    let value ← fetch source
    let machine ← get
    match ← caseOf machine.heap (machine.switches.get? table) value with
    | some label => jump label
    | none => return
  | .arrayLength target array => do
    let value ← fetch array
    store target (.int (← value.length (← get).heap))
  | .fillArray target label => do
    match (← get).arrays.get? label with
    | some data => store target (.list data.elements)
    | none => throw (.fault (.missing (Text.quote label)))
  | .newArray target size _ => do
    let count ← fetch size
    let (one, heap) := (← get).heap.newList [.text ""]
    storeFrom target (← one.operate heap .mul count)
  | .arrayGet target array index => do
    let sequence ← fetch array
    let place ← fetch index
    store target (← sequence.subscript (← get).heap place)
  | .arrayPut source array index => do
    let place ← (← fetch index).toInt
    let sequence ← fetch array
    let item ← fetch source
    changeHeap fun heap => storeItem heap sequence place item
    store array sequence
  | .arithmetic operation target left right => do
    let x ← fetch left
    let y ← fetch right
    storeFrom target (← operation.apply (← get).heap x y)
  | .literalArithmetic operation target source literal => do
    storeFrom target (← literalResult (← get) operation target source literal)
  | .xorInto target source => do
    let y ← fetch source
    let x ← fetch target
    let number ← numberOrCode y
    storeFrom target (← x.xorInPlace (← get).heap number)
  | .convert kind target source => narrow kind target source
  | .staticGet target field => do
    store target (← fetch field)
  | .staticPut source field => do
    store field (← fetch source)
  | .newInstance target className => do
    store target (← (← get).newInstance className)
  | .invoke registers callee => do
    let (descriptor, signature) ← calleeParts callee
    Action.invoke (registers.headD "") descriptor signature registers.tail
  | .exit kind source => leave kind source

end Instruction

end Dalvik
