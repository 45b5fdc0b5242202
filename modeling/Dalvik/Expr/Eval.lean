import Dalvik.Expr.Literal
import Dalvik.Expr.Scope

/-!
The value of an expression. Names stand for what the scope gives them; functions cannot be called,
and values have no members.
-/

namespace Dalvik.Expr

/-- A plus sign gives the number itself. -/
def applyUnary (heap : Heap) (operator : Unary) (value : Value) : Except Fault (Value × Heap) :=
  match operator, value, value.numeric? with
  | .plus, .bool _, some x => .ok (heap.newNumber x)
  | .plus, _, some _ => .ok (value, heap)
  | .minus, _, some x => .ok (heap.newNumber (negate x))
  | .invert, _, some (.int n) => .ok (.int (-n - 1), heap)
  | _, _, _ => .error (.unsupportedOperand operator.symbol value.kind)

/-- Whether one list stands in another without gaps. -/
def containsPart {α : Type} [BEq α] : List α → List α → Bool
  | part, [] => part.isEmpty
  | part, item :: rest => part.isPrefixOf (item :: rest) || containsPart part rest

/-- Whether a value is found in a container. -/
def isInside (heap : Heap) (value container : Value) : Except Fault Bool :=
  match container with
  | .text s =>
    match value with
    | .text part => .ok (containsPart part.toList s.toList)
    | _ => .error (.notSubtextOf value.kind)
  | .bytes data =>
    match value, value.asInt? with
    | .bytes part, _ => .ok (containsPart part data)
    | _, some n =>
      if 0 ≤ n && n < 256 then .ok (data.contains n.toNat.toUInt8) else .error .byteOutOfRange
    | _, none => .error (.notBytesLike value.kind)
  | .dict ref => do return (← Value.lookupKey heap value (heap.entries ref)).isSome
  | .set ref =>
    match value with
    | .set _ => .ok false
    | _ => do (heap.members ref).contains (Value.equalItems heap) (← value.hash heap) value
  | _ =>
    match Value.walk? heap container with
    | some items => Value.anyEqual (Value.equalItems heap) value items
    | none => .error (.notContainer container.kind)

/-- Whether two values are one and the same. -/
def isSame (left right : Value) : Bool :=
  match left, right with
  | .null, .null => true
  | .bool a, .bool b => a == b
  | .int m, .int n => m == n
  | .text s, .text t => s == t
  | .list r, .list s | .tuple r, .tuple s | .dict r, .dict s | .set r, .set s => r == s
  | .ellipsis, .ellipsis => true
  | .outside k s, .outside l t => k == l && s == t
  | _, _ => Value.sameNumber left right

mutual

/-- Whether an expression is made of constants only, so that its value is known beforehand. -/
def isConstant : Expr → Bool
  | .constant _ => true
  | .tuple items => areConstants items
  | .unary _ operand => operand.isConstant
  | .binary _ left right => left.isConstant && right.isConstant
  | _ => false

def areConstants : List Expr → Bool
  | [] => true
  | item :: rest => item.isConstant && areConstants rest

end

/-- The members of a set display. Three or more constants are made a set beforehand, which is then
taken over. -/
def displayedSet (heap : Heap) (items : List Expr) (values : List Value) :
    Except Fault Members := do
  let members ← Value.setOf heap values
  if items.length > 2 && areConstants items then
    Members.empty.merge (Value.equalItems heap) (← Value.setOf heap members.toList)
  else return members

/-- Enters pairs into a table in order. -/
def enterPairs (heap : Heap) (table : List (Value × Value)) (pairs : List (Value × Value)) :
    Except Fault (List (Value × Value)) :=
  pairs.foldlM (fun table (key, value) => Value.insertEntry heap table key value) table

def applyTest (heap : Heap) (test : Test) (left right : Value) : Except Fault Bool :=
  match test with
  | .order comparison => Value.compare heap comparison left right
  | .inside present => (isInside heap left right).map (· == present)
  | .same present => .ok (isSame left right == present)

mutual

def eval (scope : Scope) (heap : Heap) : Expr → Except Fault (Value × Heap)
  | .constant value => .ok (value.toValue, heap)
  | .name word =>
    match scope.get? word with
    | some value => .ok (value, heap)
    | none => .error (.undefinedName word)
  | .tuple items => do
    let (values, heap) ← evalItems scope heap items
    return heap.newTuple values
  | .list items => do
    let (values, heap) ← evalItems scope heap items
    return heap.newList values
  | .set items => do
    let (values, heap) ← evalItems scope heap items
    return heap.newSet (← displayedSet heap items values)
  | .dict entries => do
    let (table, heap) ← evalEntries scope heap [] [] entries
    return heap.newDict table
  | .unary operator operand => do
    let (value, heap) ← eval scope heap operand
    applyUnary heap operator value
  | .binary operator left right => do
    let (left, heap) ← eval scope heap left
    let (right, heap) ← eval scope heap right
    Value.operate heap operator left right
  | .chain first rest => do
    let (left, heap) ← eval scope heap first
    evalChain scope heap left rest
  | .negation operand => do
    let (value, heap) ← eval scope heap operand
    return (.bool !(value.truth heap), heap)
  | .both left right => do
    let (value, heap) ← eval scope heap left
    if value.truth heap then eval scope heap right else return (value, heap)
  | .either left right => do
    let (value, heap) ← eval scope heap left
    if value.truth heap then return (value, heap) else eval scope heap right
  | .choice test yes no => do
    let (value, heap) ← eval scope heap test
    if value.truth heap then eval scope heap yes else eval scope heap no
  | .call callee arguments => do
    let (value, heap) ← eval scope heap callee
    let _ ← evalItems scope heap arguments
    .error (.notCallable value.kind.name)
  | .member target word => do
    let (value, _) ← eval scope heap target
    .error (.noAttribute value.kind word)
  | .subscript target index => do
    let (value, heap) ← eval scope heap target
    let (index, heap) ← eval scope heap index
    return (← value.subscript heap index, heap)
  | .spread _ | .other => .error .notAnExpression

/-- Each comparison of a chain is made only if all before it hold. -/
def evalChain (scope : Scope) (heap : Heap) (left : Value) :
    List (Test × Expr) → Except Fault (Value × Heap)
  | [] => .ok (.bool true, heap)
  | (test, operand) :: rest => do
    let (right, heap) ← eval scope heap operand
    if ← applyTest heap test left right then evalChain scope heap right rest
    else return (.bool false, heap)

def evalItems (scope : Scope) (heap : Heap) : List Expr → Except Fault (List Value × Heap)
  | [] => .ok ([], heap)
  | .spread operand :: rest => do
    let (value, heap) ← eval scope heap operand
    let first ← Value.walk heap value
    let (others, heap) ← evalItems scope heap rest
    return (first ++ others, heap)
  | item :: rest => do
    let (value, heap) ← eval scope heap item
    let (values, heap) ← evalItems scope heap rest
    return (value :: values, heap)

/-- Entries of a table. Pairs are entered when all up to the next table that is taken in, or to the
end, are evaluated; `waiting` are those that are not entered yet, the last first. -/
def evalEntries (scope : Scope) (heap : Heap) (table waiting : List (Value × Value)) :
    List (Option Expr × Expr) → Except Fault (List (Value × Value) × Heap)
  | [] => do return (← enterPairs heap table waiting.reverse, heap)
  | (none, operand) :: rest => do
    let table ← enterPairs heap table waiting.reverse
    let (value, heap) ← eval scope heap operand
    match value with
    | .dict ref => evalEntries scope heap (← enterPairs heap table (heap.entries ref)) [] rest
    | _ => .error (.notMapping value.kind)
  | (some key, value) :: rest => do
    let (key, heap) ← eval scope heap key
    let (value, heap) ← eval scope heap value
    evalEntries scope heap table ((key, value) :: waiting) rest

end

/-- The value of the expression that a text writes. -/
def evaluate (scope : Scope) (heap : Heap) (text : String) : Except Fault (Value × Heap) :=
  match ofString text with
  | some expr => expr.eval scope heap
  | none => .error .notAnExpression

end Dalvik.Expr
