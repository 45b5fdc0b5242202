import Dalvik.Expr.Token
import Dalvik.Value.Operator

/-!
Expressions, read from tokens by their precedence.
-/

namespace Dalvik

inductive Unary where
  | plus
  | minus
  | invert
deriving DecidableEq, Repr

def Unary.symbol : Unary → String
  | .plus => "+"
  | .minus => "-"
  | .invert => "~"

/-- Tests that a chain of comparisons is made of. -/
inductive Test where
  | order (test : Comparison)
  | inside (present : Bool)
  | same (present : Bool)
deriving DecidableEq, Repr

inductive Expr where
  | constant (value : Expr.Constant)
  | name (s : String)
  | tuple (items : List Expr)
  | list (items : List Expr)
  | set (items : List Expr)
  /-- Entries of a table; one without a key takes in another table. -/
  | dict (entries : List (Option Expr × Expr))
  | unary (operator : Unary) (operand : Expr)
  | binary (operator : Operator) (left right : Expr)
  | chain (first : Expr) (rest : List (Test × Expr))
  | negation (operand : Expr)
  | both (left right : Expr)
  | either (left right : Expr)
  | choice (test yes no : Expr)
  | call (callee : Expr) (arguments : List Expr)
  | member (target : Expr) (name : String)
  | subscript (target index : Expr)
  /-- An item marked to be taken apart where it stands. -/
  | spread (operand : Expr)
  /-- Functions, comprehensions and whatever else neither literals nor sums are made of. -/
  | other

end Dalvik
