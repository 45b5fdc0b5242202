import Dalvik.Value.Compare

/-!
Instructions with their operands: names of registers, labels, fields and classes, and literals as
they are written.
-/

namespace Dalvik

/-- Operations on two registers. -/
inductive Arithmetic where
  | add
  | sub
  | mul
  | div
  | rem
  | and
  | or
deriving DecidableEq, Repr

/-- Operations on a register and a literal. -/
inductive LiteralArithmetic where
  | add
  | mul
  | div
  | rem
  | and
  | xor
  | shl
deriving DecidableEq, Repr

inductive Instruction where
  | const (target literal : String)
  | constString (target text : String)
  | move (target source : String)
  | moveResult (target : String)
  | moveException (target : String)
  | branch (test : Comparison) (left right label : String)
  | branchZero (test : Comparison) (source label : String)
  | goto (label : String)
  | packedSwitch (source table : String)
  | arrayLength (target array : String)
  | fillArray (target label : String)
  | newArray (target size className : String)
  | arrayGet (target array index : String)
  | arrayPut (source array index : String)
  | arithmetic (operation : Arithmetic) (target left right : String)
  | literalArithmetic (operation : LiteralArithmetic) (target source literal : String)
  | xorInto (target source : String)
  | convert (kind target source : String)
  | staticGet (target field : String)
  | staticPut (source field : String)
  | newInstance (target className : String)
  /-- The receiver is the first register of the list. -/
  | invoke (registers : List String) (callee : String)
  | exit (kind source : Option String)
deriving DecidableEq, Repr

end Dalvik
