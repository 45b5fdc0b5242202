import Dalvik.Instruction.Basic
import Dalvik.Pattern.Basic
import Dalvik.Text.Parts

/-!
The written forms of instructions. Each form has a pattern whose groups catch the operands; the
first form whose pattern is found in a line says which instruction the line is.
-/

namespace Dalvik

inductive Form where
  | const
  | constString
  | move
  | moveResult
  | moveException
  | branch (test : Comparison)
  | branchZero (test : Comparison)
  | goto
  | packedSwitch
  | arrayLength
  | fillArray
  | newArray
  | arrayGet
  | arrayPut
  | arithmetic (operation : Arithmetic)
  | literalArithmetic (operation : LiteralArithmetic)
  | xorInto
  | convert
  | staticGet
  | staticPut
  | newInstance
  | invoke
  | exit
deriving DecidableEq, Repr

def Comparison.mnemonic : Comparison → String
  | .lt => "lt"
  | .le => "le"
  | .eq => "eq"
  | .ne => "ne"
  | .gt => "gt"
  | .ge => "ge"

def Arithmetic.mnemonic : Arithmetic → String
  | .add => "add"
  | .sub => "sub"
  | .mul => "mul"
  | .div => "div"
  | .rem => "rem"
  | .and => "and"
  | .or => "or"

def LiteralArithmetic.mnemonic : LiteralArithmetic → String
  | .add => "add"
  | .mul => "mul"
  | .div => "div"
  | .rem => "rem"
  | .and => "and"
  | .xor => "xor"
  | .shl => "shl"

namespace Form

open Pattern

/-- All forms, in the order in which they are tried. -/
def all : List Form := [
  .arrayPut, .arithmetic .add, .literalArithmetic .add, .arrayGet, .arithmetic .and,
  .literalArithmetic .and, .fillArray, .arrayLength, .const, .constString, .arithmetic .div,
  .literalArithmetic .div, .goto, .branch .eq, .branchZero .eq, .branch .ge, .branchZero .ge,
  .branch .gt, .branchZero .gt, .branch .le, .branchZero .le, .branch .lt, .branchZero .lt,
  .branch .ne, .branchZero .ne, .convert, .invoke, .move, .moveException, .moveResult,
  .arithmetic .mul, .literalArithmetic .mul, .newArray, .newInstance, .arithmetic .or,
  .packedSwitch, .arithmetic .rem, .literalArithmetic .rem, .exit, .staticGet, .staticPut,
  .literalArithmetic .shl, .arithmetic .sub, .xorInto, .literalArithmetic .xor]

/-- Any text within a line, caught as the operand of the given number. -/
def operand (number : Nat) : Pattern :=
  .group number (.many .inLine 1)

/-- A label begins with a colon. -/
def label (number : Nat) : Pattern :=
  .group number (.both (.one (.only ':')) (.many .inLine 1))

/-- Operands are divided by a comma and any blanks. -/
def divided : List Pattern → Pattern
  | [] => .empty
  | [last] => last
  | part :: rest => .both part (.both (.one (.only ',')) (.both (.many .blank 0) (divided rest)))

/-- A mnemonic at the start of the line, one space, and the operands. -/
def line (mnemonic : Pattern) (operands : List Pattern) : Pattern :=
  sequence [.atStart, mnemonic, text " ", divided operands]

/-- A mnemonic that may end in `/` and a width. -/
def withWidth (mnemonic : String) : Pattern :=
  .both (text mnemonic) (optional (.both (text "/") (.many .digit 1)))

/-- A mnemonic that may end in `-` and the name of a kind. -/
def withKind (mnemonic : String) : Pattern :=
  .both (text mnemonic) (optional (.both (text "-") (.many .lowerLetter 1)))

def pattern : Form → Pattern
  | .const => line (withWidth "const") [operand 1, operand 2]
  | .constString =>
    sequence [.atStart, text "const-string", optional (text "/jumbo"), text " ", operand 1,
      text ",", .many .blank 0, text "\"", .group 2 (.many .inLine 0), text "\""]
  | .move => line (.both (text "move") (optional (text "-object"))) [operand 1, operand 2]
  | .moveResult => line (.both (text "move-result") (optional (text "-object"))) [operand 1]
  | .moveException => line (text "move-exception") [operand 1]
  | .branch test => line (text ("if-" ++ test.mnemonic)) [operand 1, operand 2, label 3]
  | .branchZero test => line (text ("if-" ++ test.mnemonic ++ "z")) [operand 1, label 2]
  | .goto => line (withWidth "goto") [label 1]
  | .packedSwitch => line (text "packed-switch") [operand 1, operand 2]
  | .arrayLength => .both (text "array-length ") (divided [operand 1, operand 2])
  | .fillArray => .both (text "fill-array-data ") (divided [operand 1, operand 2])
  | .newArray => line (text "new-array") [operand 1, operand 2, operand 3]
  | .arrayGet =>
    line (.both (text "aget") (.many (.either (.only '-') .lowerLetter) 0))
      [operand 1, operand 2, operand 3]
  | .arrayPut => line (withKind "aput") [operand 1, operand 2, operand 3]
  | .arithmetic operation =>
    line (text (operation.mnemonic ++ "-int")) [operand 1, operand 2, operand 3]
  | .literalArithmetic operation =>
    line (.both (text (operation.mnemonic ++ "-int/lit")) (.many .digit 1))
      [operand 1, operand 2, operand 3]
  | .xorInto => line (.both (text "xor-int") (optional (text "/2addr"))) [operand 1, operand 2]
  | .convert =>
    line (.both (text "int-to-") (.group 1 (.many .lowerLetter 1))) [operand 2, operand 3]
  | .staticGet => static "sget"
  | .staticPut => static "sput"
  | .newInstance => line (text "new-instance") [operand 1, operand 2]
  | .invoke =>
    line (.both (text "invoke-") (.many .lowerLetter 1))
      [sequence [text "\x7b", .group 1 (.many .inLine 0), text "\x7d"], operand 2]
  | .exit =>
    sequence [.atStart, text "return",
      .repeated (.group 1 (.both (text "-") (.many .lowerLetter 0))) 0 none false,
      .many .blank 0, .repeated (operand 2) 0 none false]
where
  /-- Blanks of any kind may follow the mnemonic. -/
  static (mnemonic : String) : Pattern :=
    sequence [.atStart, withKind mnemonic, .many .blank 1, divided [operand 1, operand 2]]

/-- The groups that the pattern catches in a line, as they stand there. -/
def groups? (form : Form) (line : String) : Option (List (Option String)) :=
  form.pattern.groupsIn line

def registers (text : String) : List String :=
  (Text.split ',' text).map Text.strip

/-- The instruction with the given operands. -/
def build (form : Form) (operands : List (Option String)) : Option Instruction :=
  match form, operands with
  | .const, [some target, some literal] => some (.const target literal)
  | .constString, [some target, some text] => some (.constString target text)
  | .move, [some target, some source] => some (.move target source)
  | .moveResult, [some target] => some (.moveResult target)
  | .moveException, [some target] => some (.moveException target)
  | .branch test, [some left, some right, some label] => some (.branch test left right label)
  | .branchZero test, [some source, some label] => some (.branchZero test source label)
  | .goto, [some label] => some (.goto label)
  | .packedSwitch, [some source, some table] => some (.packedSwitch source table)
  | .arrayLength, [some target, some array] => some (.arrayLength target array)
  | .fillArray, [some target, some label] => some (.fillArray target label)
  | .newArray, [some target, some size, some className] => some (.newArray target size className)
  | .arrayGet, [some target, some array, some index] => some (.arrayGet target array index)
  | .arrayPut, [some source, some array, some index] => some (.arrayPut source array index)
  | .arithmetic operation, [some target, some left, some right] =>
    some (.arithmetic operation target left right)
  | .literalArithmetic operation, [some target, some source, some literal] =>
    some (.literalArithmetic operation target source literal)
  | .xorInto, [some target, some source] => some (.xorInto target source)
  | .convert, [some kind, some target, some source] => some (.convert kind target source)
  | .staticGet, [some target, some field] => some (.staticGet target field)
  | .staticPut, [some source, some field] => some (.staticPut source field)
  | .newInstance, [some target, some className] => some (.newInstance target className)
  | .invoke, [some text, some callee] => some (.invoke (registers text) callee)
  | .exit, [kind, source] => some (.exit kind source)
  | _, _ => none

/-- The names of the operands. -/
def operandNames : Form → List String
  | .const => ["vx", "lit"]
  | .constString => ["vx", "s"]
  | .move | .arrayLength | .xorInto => ["vx", "vy"]
  | .moveResult => ["dest"]
  | .moveException => ["vx"]
  | .branch _ => ["vx", "vy", "label"]
  | .branchZero _ | .fillArray => ["vx", "label"]
  | .goto => ["label"]
  | .packedSwitch => ["vx", "table"]
  | .newArray => ["vx", "vy", "klass"]
  | .arrayGet | .arrayPut | .arithmetic _ => ["vx", "vy", "vz"]
  | .literalArithmetic _ => ["vx", "vy", "lit"]
  | .convert => ["ctype", "vx", "vy"]
  | .staticGet | .staticPut => ["vx", "staticVariableName"]
  | .newInstance => ["vx", "klass"]
  | .invoke => ["args", "call"]
  | .exit => ["ctype", "vx"]

/-- Operands given by hand have to be as many as the form has; the machine itself counts as one
more. -/
def checkCount (form : Form) (callee : String) (given : Nat) : Except Fault Unit :=
  let names := form.operandNames
  if given < names.length then .error (.missingOperands callee (names.drop given))
  else if names.length < given then .error (.surplusOperands callee (names.length + 1) (given + 1))
  else .ok ()

/-- The instruction that a line of this form writes. Blanks around operands do not belong to
them. -/
def read? (form : Form) (line : String) : Option Instruction := do
  let groups ← form.groups? line
  form.build (groups.map (·.map Text.strip))

end Form

namespace Instruction

/-- The instruction that a line writes. -/
def ofLine? (line : String) : Option Instruction :=
  Form.all.findSome? (·.read? line)

end Instruction

end Dalvik
