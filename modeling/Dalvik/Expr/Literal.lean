import Dalvik.Expr.Parser

/-!
Literals: the expressions that stand for a value by themselves. Numbers may have one sign; lists,
tuples, sets and tables hold literals; every other expression is refused.
-/

namespace Dalvik.Expr

def Constant.toValue : Constant → Value
  | .null => .null
  | .bool b => .bool b
  | .int n => .int n
  | .float x => .float x 0
  | .imaginary x => .complex 0 x 0
  | .text s => .text s
  | .bytes data => .bytes data
  | .ellipsis => .ellipsis

/-- A number without a sign. -/
def number? : Expr → Option Numeric
  | .constant (.int n) => some (.int n)
  | .constant (.float x) => some (.float x)
  | .constant (.imaginary x) => some (.complex 0 x)
  | _ => none

def negate : Numeric → Numeric
  | .int n => .int (-n)
  | .float x => .float (-x)
  | .complex real imaginary => .complex (-real) (-imaginary)

/-- A number with at most one sign. -/
def signedNumber? : Expr → Option Numeric
  | .unary .plus operand => operand.number?
  | .unary .minus operand => operand.number?.map negate
  | expr => expr.number?

/-- The sum or difference of a real and an imaginary number. -/
def complexLiteral? (operator : Operator) (left right : Expr) : Option (Except Fault Numeric) :=
  match operator, left.signedNumber?, right.number? with
  | _, some (.complex _ _), _ => none
  | .add, some x, some y@(.complex _ _) => some (x.add y)
  | .sub, some x, some y@(.complex _ _) => some (x.sub y)
  | _, _, _ => none

mutual

/-- The value of a literal, in a store that has room for its parts. No number that a literal writes
differs from itself. -/
def literal (heap : Heap) : Expr → Except Fault (Value × Heap)
  | .constant value => .ok (value.toValue, heap)
  | .tuple items => do
    let (values, heap) ← literals heap items
    return heap.newTuple values
  | .list items => do
    let (values, heap) ← literals heap items
    return heap.newList values
  | .set items => do
    let (members, heap) ← literalMembers heap .empty items
    return heap.newSet members
  | .dict entries => do
    let (values, heap) ← literalEntries heap [] entries
    return heap.newDict values
  | .call (.name "set") [] => .ok (heap.newSet .empty)
  | .binary operator left right =>
    match complexLiteral? operator left right with
    | some result => result.map fun number => (number.toValue 0, heap)
    | none => .error .notALiteral
  | expr =>
    match expr.signedNumber? with
    | some number => .ok (number.toValue 0, heap)
    | none => .error .notALiteral

def literals (heap : Heap) : List Expr → Except Fault (List Value × Heap)
  | [] => .ok ([], heap)
  | item :: rest => do
    let (value, heap) ← literal heap item
    let (values, heap) ← literals heap rest
    return (value :: values, heap)

def literalMembers (heap : Heap) (members : Members) :
    List Expr → Except Fault (Members × Heap)
  | [] => .ok (members, heap)
  | item :: rest => do
    let (value, heap) ← literal heap item
    let members ← Value.insertMember heap members value
    literalMembers heap members rest

def literalEntries (heap : Heap) (table : List (Value × Value)) :
    List (Option Expr × Expr) → Except Fault (List (Value × Value) × Heap)
  | [] => .ok (table, heap)
  | (none, _) :: _ => .error .notALiteral
  | (some key, value) :: rest => do
    let (key, heap) ← literal heap key
    let (value, heap) ← literal heap value
    let table ← Value.insertEntry heap table key value
    literalEntries heap table rest

end

/-- The value of the literal that a text writes. -/
def readLiteral (heap : Heap) (text : String) : Except Fault (Value × Heap) :=
  match ofString text with
  | some expr => expr.literal heap
  | none => .error .notAnExpression

end Dalvik.Expr
