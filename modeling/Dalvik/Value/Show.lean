import Dalvik.Number.Decimal
import Dalvik.Value.Basic

/-!
The text of values. Inside containers texts are quoted; a container that holds itself shows as an
ellipsis at the inner place.
-/

namespace Dalvik.Value

/-- How deeply values may be nested before walking through them is given up. The exact bound depends
on how many calls are under way; no program that builds its values by instructions comes near it. -/
def depthLimit : Nat := 990

/-- The decimal text of an integer, unless it has more digits than are ever converted. -/
def intText (n : Int) : Except Fault String :=
  if n.natAbs < Nat.pow 10 Number.maxDigits then .ok (toString n) else .error .numberTooLong

inductive Container where
  | sequence (ref : Ref)
  | table (ref : Ref)
deriving DecidableEq

def commaList (parts : List String) : String :=
  ", ".intercalate parts

/-- The text of a value inside the containers of `path`. -/
def shownWithin (heap : Heap) : Nat → List Container → Value → Except Fault String
  | 0, _, _ => .error .tooDeepToShow
  | fuel + 1, path, value =>
    let inside (container : Container) := shownWithin heap fuel (container :: path)
    match value with
    | .null => .ok "None"
    | .bool b => .ok (if b then "True" else "False")
    | .int n => intText n
    | .float x _ => .ok (Number.floatText x)
    | .complex real imaginary _ => .ok (Number.complexText real imaginary)
    | .ellipsis => .ok "Ellipsis"
    | .text s => .ok (Text.quote s)
    | .bytes data => .ok (Text.quoteBytes data)
    | .list ref =>
      if path.contains (.sequence ref) then .ok "[...]"
      else do
        let parts ← (heap.items ref).mapM (inside (.sequence ref))
        return "[" ++ commaList parts ++ "]"
    | .tuple ref =>
      if path.contains (.sequence ref) then .ok "(...)"
      else do
        match ← (heap.items ref).mapM (inside (.sequence ref)) with
        | [part] => return "(" ++ part ++ ",)"
        | parts => return "(" ++ commaList parts ++ ")"
    | .set ref => do
        match ← (heap.members ref).toList.mapM (shownWithin heap fuel path) with
        | [] => return "set()"
        | parts => return "\x7b" ++ commaList parts ++ "\x7d"
    | .dict ref =>
      if path.contains (.table ref) then .ok "\x7b...\x7d"
      else do
        let parts ← (heap.entries ref).mapM fun (key, value) => do
          let keyText ← inside (.table ref) key
          let valueText ← inside (.table ref) value
          return keyText ++ ": " ++ valueText
        return "\x7b" ++ commaList parts ++ "\x7d"
    | .raised cause _ => cause.shown
    | .outside _ shown => .ok shown

/-- A value as it stands in lists and messages. -/
def shown (heap : Heap) (value : Value) : Except Fault String :=
  shownWithin heap depthLimit [] value

/-- A value as a program prints it: texts as they are, faults as their text. -/
def plain (heap : Heap) (value : Value) : Except Fault String :=
  match value with
  | .text s => .ok s
  | .raised cause _ => cause.text
  | _ => value.shown heap

end Dalvik.Value
