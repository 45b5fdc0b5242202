import Dalvik.Pattern.Basic
import Dalvik.Value.Fault

/-!
Class descriptors and the class names that they stand for: `Ljava/lang/String;` is
`java.lang.String`.
-/

namespace Dalvik.ClassName

/-- An optional `L`, a path that begins with letters, an optional semicolon. -/
def descriptor : Pattern :=
  let letter := CharSet.either .lowerLetter (.between 'A' 'Z')
  .sequence [
    .group 1 (.optional (.text "L")),
    .group 2 (.both (.many letter 1) (.many (.either .word (.only '/')) 1)),
    .optional (.text ";")]

def dotted (path : String) : String :=
  String.ofList (path.toList.map fun c => if c = '/' then '.' else c)

/-- The class name of a descriptor; the whole text has to be one descriptor. -/
def ofDescriptor (text : String) : Except Fault String :=
  match descriptor.matchStart text with
  | some place =>
    match place.rest, place.group? 2 with
    | [], some path => .ok (dotted path)
    | _, _ => .error (.badClassName text)
  | none => .error (.badClassName text)

end Dalvik.ClassName
