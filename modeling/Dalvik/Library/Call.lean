import Dalvik.ClassName
import Dalvik.Machine.Action
import Dalvik.Value.Operator

/-!
Calls of library methods. An object is the value of the register that names it; a method gives its
answer as the result of the machine, or hands a value back.
-/

namespace Dalvik

namespace Method

open Dalvik.Action

/-- Objects begin as the empty text. -/
def newObject : Value :=
  .text ""

/-- The value of one of the registers that are handed over. -/
def argument (arguments : List String) (position : Nat) : Action Value :=
  match arguments[position]? with
  | some register => fetch register
  | none => throw (.fault (.outOfRange .list))

/-- A decimal numeral, or else one in base sixteen. -/
def parsed (value : Value) : Except Fault Int :=
  match value.toInt with
  | .ok number => .ok number
  | .error _ => value.toIntInBase 16

/-- Calls a method; gives the value that it hands back, if any. -/
def call (method : Method) (this : String) (arguments : List String) : Action (Option Value) :=
  match method with
  | .create className => throw (.fault (.constructorArguments className))
  | .textOfChars => do
    let chars ← argument arguments 0
    let text ← chars.join (← get).heap
    store this (.text text)
    return none
  | .charAt => do
    let index ← argument arguments 0
    let value ← fetch this
    give (← value.subscript (← get).heap index)
    return none
  | .toChars => do
    let value ← fetch this
    let items ← value.walk (← get).heap
    giveFrom ((← get).heap.newList items)
    return none
  | .intern => do
    let value ← fetch this
    return some (.text (← value.plain (← get).heap))
  | .textOfRange => do
    let chars ← fetch this
    let text ← chars.join (← get).heap
    let first ← (← argument arguments 0).toInt
    let last ← (← argument arguments 1).toInt
    giveFrom (← (Value.text text).slice (← get).heap first last)
    return none
  | .length => do
    let value ← fetch this
    give (.int (← value.length (← get).heap))
    return none
  | .substring => do
    let value ← fetch this
    let first ← (← argument arguments 0).toInt
    let last ← (← argument arguments 1).toInt
    giveFrom (← value.slice (← get).heap first last)
    return none
  | .initBuilder => return none
  | .append => do
    let value ← fetch this
    let addend ← argument arguments 0
    let whole ← install (← value.addInPlace (← get).heap addend)
    store this whole
    give (← fetch this)
    return none
  | .builderText => do
    let value ← fetch this
    give (.text (← value.plain (← get).heap))
    return none
  | .parseInt => do
    let value ← fetch this
    give (.int (← parsed value))
    return none
  | .parseDecimal => do
    let value ← fetch this
    give (.int (← value.toInt))
    return none

end Method

namespace Machine

def method? (machine : Machine) (className signature : String) : Except Halt Method :=
  match machine.library.get? className with
  | none => .error (.fatal ("Unsupported class '" ++ className ++ "'."))
  | some methods =>
    match methods.get? signature with
    | none =>
      .error (.fatal ("Unsupported method '" ++ signature ++ "' for class '" ++ className ++ "'."))
    | some method => .ok method

/-- A new object of the class that a descriptor names. -/
def newInstance (machine : Machine) (descriptor : String) : Except Halt Value := do
  let className ← ClassName.ofDescriptor descriptor
  let _ ← machine.method? className Library.newInstance
  return Method.newObject

/-- Takes a method out of the library; tells whether it was there. -/
def unmap (machine : Machine) (className signature : String) : Except Fault (Bool × Machine) :=
  match machine.library.get? className with
  | none => .error (.missing (Text.quote className))
  | some methods =>
    .ok ((methods.get? signature).isSome,
      { machine with library := machine.library.insert className (methods.erase signature) })

end Machine

/-- Calls the method that a descriptor and a signature name; a value that it hands back becomes the
result. -/
def Action.invoke (this descriptor signature : String) (arguments : List String) :
    Action Unit := do
  let className ← ClassName.ofDescriptor descriptor
  let method ← (← get).method? className signature
  match ← method.call this arguments with
  | some value => give value
  | none => return

end Dalvik
