import Dalvik.Number.Numeral
import Dalvik.Text.Quoted

/-!
Faults: what goes wrong inside an emulated program, with the exact wording of each.
-/

namespace Dalvik

/-- The kind of a fault, under which emulated programs see it. -/
inductive FaultKind where
  | key
  | index
  | typing
  | value
  | zeroDivision
  | overflow
  | member
  | naming
  | grammar
  | recursion
  | memory
  | notImplemented
  | className
  | missingSource
  | pattern
  | other (name : String)
deriving DecidableEq, Repr

def FaultKind.name : FaultKind → String
  | .key => "KeyError"
  | .index => "IndexError"
  | .typing => "TypeError"
  | .value => "ValueError"
  | .zeroDivision => "ZeroDivisionError"
  | .overflow => "OverflowError"
  | .member => "AttributeError"
  | .naming => "NameError"
  | .grammar => "SyntaxError"
  | .recursion => "RecursionError"
  | .memory => "MemoryError"
  | .notImplemented => "NotImplementedError"
  | .className => "IncorrectPattern"
  | .missingSource => "MissingSource"
  | .pattern => "error"
  | .other name => name

def FaultKind.ofName (name : String) : FaultKind :=
  ([.key, .index, .typing, .value, .zeroDivision, .overflow, .member, .naming, .grammar,
    .recursion, .memory, .notImplemented, .className, .missingSource, .pattern].find?
      fun kind => kind.name = name).getD (.other name)

/-- The kind of a value, as messages name it. -/
inductive ValueKind where
  | null
  | bool
  | int
  | float
  | complex
  | ellipsis
  | text
  | bytes
  | list
  | tuple
  | dict
  | set
  | fault (kind : FaultKind)
  /-- Things that are no values of programs. -/
  | outside (name : String)
deriving DecidableEq, Repr

def ValueKind.name : ValueKind → String
  | .null => "NoneType"
  | .bool => "bool"
  | .int => "int"
  | .float => "float"
  | .complex => "complex"
  | .ellipsis => "ellipsis"
  | .text => "str"
  | .bytes => "bytes"
  | .list => "list"
  | .tuple => "tuple"
  | .dict => "dict"
  | .set => "set"
  | .fault kind => kind.name
  | .outside name => name

/-- Why a value cannot be written out. -/
inductive Obstacle where
  | tooLong
  | tooDeep
deriving DecidableEq, Repr

inductive Fault where
  /-- A name or key that is not there; `shown` is its quoted form. -/
  | missing (shown : String)
  /-- A key that is not there and cannot be written out. -/
  | missingUnshown (obstacle : Obstacle)
  | outOfRange (kind : ValueKind)
  | assignmentOutOfRange
  | emptyPop
  | indexTooWide
  | repeatTooWide
  | repeatTooLong (kind : ValueKind)
  | outOfMemory
  | unsupportedOperands (symbol : String) (left right : ValueKind)
  | unsupportedOperand (symbol : String) (operand : ValueKind)
  | unordered (symbol : String) (left right : ValueKind)
  | notConcatenable (left right : ValueKind)
  | notRepeatable (other : ValueKind)
  | badIndex (sequence index : ValueKind)
  | notSubscriptable (kind : ValueKind)
  | noItemAssignment (kind : ValueKind)
  | noLength (kind : ValueKind)
  | notIterable (kind : ValueKind)
  | notContainer (kind : ValueKind)
  | notSubtextOf (kind : ValueKind)
  | notBytesLike (kind : ValueKind)
  | byteOutOfRange
  | notMapping (kind : ValueKind)
  | notCallable (name : String)
  | notJoinable
  | notJoinableItem (position : Nat) (kind : ValueKind)
  | unhashable (name : String)
  | noAttribute (kind : ValueKind) (member : String)
  | notOneCharacter (length : Nat)
  | notACharacter (kind : ValueKind)
  | notANumber (kind : ValueKind)
  | notAText
  | badNumeral (base : Nat) (shown : String)
  | numeralTooLong (digits : Nat)
  | numberTooLong
  | nanToInt
  | infinityToInt
  | intToFloat
  | quotientTooLarge
  | divisionByZero
  | floorByZero
  | moduloByZero
  | floatDivisionByZero
  | floatFloorByZero
  | floatModuloByZero
  | complexDivisionByZero
  | zeroToNegativePower
  | zeroToComplexPower
  | powerTooLarge
  | complexPowerTooLarge
  | negativeShift
  | shiftTooWide
  | undefinedName (name : String)
  | notAnExpression
  | notALiteral
  | tooDeep
  | tooDeepToShow
  | unusedArguments (kind : ValueKind)
  | missingArgument
  | formatNeeds (conversion : Char) (wanted : String) (kind : ValueKind)
  | formatNeedsReal (kind : ValueKind)
  | formatNeedsFloat (kind : ValueKind)
  | formatNeedsCharacter
  | formatNeedsByte
  | formatCharacterRange
  | formatByteRange
  | formatNeedsMapping
  | formatNeedsWidth
  | formatIncomplete
  | formatIncompleteKey
  | formatUnknown (shown : Char) (code index : Nat)
  | formatUnknownByte
  | formatNeedsBytes (kind : ValueKind)
  | widthTooBig
  | precisionTooBig (kind : ValueKind)
  | precisionTooLarge
  /-- An integer that a machine word of the named type cannot hold. -/
  | wordTooSmall (word : String)
  | pairExpected (index : Nat)
  | pairLength (index length : Nat)
  | tooFewParts (count : Nat)
  | tooManyParts
  | constructorArguments (className : String)
  | missingOperands (callee : String) (names : List String)
  | surplusOperands (callee : String) (expected given : Nat)
  | badClassName (name : String)
  | missingSource
  | badPattern (message : String)
  | repetitionTooLarge
  | noSuchGroup
  | notImplemented
  /-- A fault raised by hand. -/
  | declared (kind : FaultKind) (message : String)
deriving DecidableEq, Repr

namespace Fault

def kind : Fault → FaultKind
  | .missing _ | .missingUnshown _ => .key
  | .outOfRange _ | .assignmentOutOfRange | .emptyPop | .indexTooWide | .noSuchGroup => .index
  | .repeatTooWide | .repeatTooLong _ | .infinityToInt | .intToFloat | .quotientTooLarge
  | .shiftTooWide | .formatCharacterRange | .formatByteRange | .formatUnknownByte
  | .precisionTooLarge | .wordTooSmall _ | .repetitionTooLarge | .powerTooLarge
  | .complexPowerTooLarge => .overflow
  | .outOfMemory => .memory
  | .badNumeral _ _ | .numeralTooLong _ | .numberTooLong | .nanToInt | .negativeShift
  | .notALiteral | .formatIncomplete | .formatIncompleteKey | .formatUnknown _ _ _
  | .widthTooBig | .precisionTooBig _ | .byteOutOfRange
  | .pairLength _ _ | .tooFewParts _ | .tooManyParts => .value
  | .divisionByZero | .floorByZero | .moduloByZero | .floatDivisionByZero | .floatFloorByZero
  | .floatModuloByZero | .complexDivisionByZero | .zeroToNegativePower
  | .zeroToComplexPower => .zeroDivision
  | .noAttribute _ _ => .member
  | .undefinedName _ => .naming
  | .notAnExpression => .grammar
  | .tooDeep | .tooDeepToShow => .recursion
  | .badClassName _ => .className
  | .missingSource => .missingSource
  | .badPattern _ => .pattern
  | .notImplemented => .notImplemented
  | .declared kind _ => kind
  | .unsupportedOperands _ _ _ | .unsupportedOperand _ _ | .unordered _ _ _
  | .notConcatenable _ _ | .notRepeatable _ | .badIndex _ _ | .notSubscriptable _
  | .noItemAssignment _ | .noLength _ | .notIterable _ | .notContainer _ | .notSubtextOf _
  | .notBytesLike _ | .notMapping _ | .notCallable _ | .notJoinable | .notJoinableItem _ _
  | .unhashable _ | .notOneCharacter _
  | .notACharacter _ | .notANumber _ | .notAText | .unusedArguments _ | .missingArgument
  | .formatNeeds _ _ _ | .formatNeedsReal _ | .formatNeedsFloat _ | .formatNeedsCharacter
  | .formatNeedsByte | .formatNeedsMapping | .formatNeedsWidth | .formatNeedsBytes _
  | .pairExpected _ | .constructorArguments _
  | .missingOperands _ _ | .surplusOperands _ _ _ => .typing

/-- The longest beginning of a text that fits in the given number of bytes; a character cut in two
shows as the replacement character. -/
def takeBytes : Nat → List Char → List Char
  | _, [] => []
  | room, c :: rest =>
    if c.utf8Size ≤ room then c :: takeBytes (room - c.utf8Size) rest
    else if room = 0 then []
    else [Char.ofNat 0xfffd]

def rangeText : ValueKind → String
  | .list => "list index out of range"
  | .text => "string index out of range"
  | .tuple => "tuple index out of range"
  | _ => "index out of range"

def indexText (sequence index : ValueKind) : String :=
  match sequence with
  | .text => "string indices must be integers, not '" ++ index.name ++ "'"
  | .bytes => "byte indices must be integers or slices, not " ++ index.name
  | _ => sequence.name ++ " indices must be integers or slices, not " ++ index.name

/-- Names in quotes, with a word before the last. -/
def listedNames (names : List String) : String :=
  let quoted := names.map fun name => "'" ++ name ++ "'"
  match quoted with
  | [] => ""
  | [only] => only
  | [first, second] => first ++ " and " ++ second
  | _ => ", ".intercalate quoted.dropLast ++ ", and " ++ quoted.getLast?.getD ""

def limitText : String :=
  "Exceeds the limit (" ++ toString Number.maxDigits ++ " digits) for integer string conversion"

def limitAdvice : String :=
  "; use sys.set_int_max_str_digits() to increase the limit"

def message : Fault → String
  | .missing shown => shown
  | .missingUnshown _ => ""
  | .outOfRange kind => rangeText kind
  | .assignmentOutOfRange => "list assignment index out of range"
  | .emptyPop => "pop from empty list"
  | .indexTooWide | .repeatTooWide => "cannot fit 'int' into an index-sized integer"
  | .repeatTooLong .bytes => "repeated bytes are too long"
  | .repeatTooLong _ => "repeated string is too long"
  | .outOfMemory => ""
  | .unsupportedOperands symbol left right =>
    "unsupported operand type(s) for " ++ symbol ++ ": '" ++ left.name ++ "' and '" ++
      right.name ++ "'"
  | .unsupportedOperand symbol operand =>
    "bad operand type for unary " ++ symbol ++ ": '" ++ operand.name ++ "'"
  | .unordered symbol left right =>
    "'" ++ symbol ++ "' not supported between instances of '" ++ left.name ++ "' and '" ++
      right.name ++ "'"
  | .notConcatenable .bytes right => "can't concat " ++ right.name ++ " to bytes"
  | .notConcatenable left right =>
    "can only concatenate " ++ left.name ++ " (not \"" ++ right.name ++ "\") to " ++ left.name
  | .notRepeatable other =>
    "can't multiply sequence by non-int of type '" ++ other.name ++ "'"
  | .badIndex sequence index => indexText sequence index
  | .notSubscriptable kind => "'" ++ kind.name ++ "' object is not subscriptable"
  | .noItemAssignment kind => "'" ++ kind.name ++ "' object does not support item assignment"
  | .noLength kind => "object of type '" ++ kind.name ++ "' has no len()"
  | .notIterable kind => "'" ++ kind.name ++ "' object is not iterable"
  | .notContainer kind => "argument of type '" ++ kind.name ++ "' is not iterable"
  | .notSubtextOf kind =>
    "'in <string>' requires string as left operand, not " ++ kind.name
  | .notBytesLike kind => "a bytes-like object is required, not '" ++ kind.name ++ "'"
  | .byteOutOfRange => "byte must be in range(0, 256)"
  | .notMapping kind => "'" ++ kind.name ++ "' object is not a mapping"
  | .notCallable name => "'" ++ name ++ "' object is not callable"
  | .notJoinable => "can only join an iterable"
  | .notJoinableItem position kind =>
    "sequence item " ++ toString position ++ ": expected str instance, " ++ kind.name ++ " found"
  | .unhashable name => "unhashable type: '" ++ name ++ "'"
  | .noAttribute kind member =>
    "'" ++ kind.name ++ "' object has no attribute '" ++ member ++ "'"
  | .notOneCharacter length =>
    "ord() expected a character, but string of length " ++ toString length ++ " found"
  | .notACharacter kind => "ord() expected string of length 1, but " ++ kind.name ++ " found"
  | .notANumber kind =>
    "int() argument must be a string, a bytes-like object or a real number, not '" ++
      kind.name ++ "'"
  | .notAText => "int() can't convert non-string with explicit base"
  | .badNumeral base shown =>
    "invalid literal for int() with base " ++ toString base ++ ": " ++
      String.ofList (shown.toList.take 200)
  | .numeralTooLong digits =>
    limitText ++ ": value has " ++ toString digits ++ " digits" ++ limitAdvice
  | .numberTooLong => limitText ++ limitAdvice
  | .nanToInt => "cannot convert float NaN to integer"
  | .infinityToInt => "cannot convert float infinity to integer"
  | .intToFloat => "int too large to convert to float"
  | .quotientTooLarge => "integer division result too large for a float"
  | .divisionByZero => "division by zero"
  | .floorByZero => "integer division or modulo by zero"
  | .moduloByZero => "integer modulo by zero"
  | .floatDivisionByZero => "float division by zero"
  | .floatFloorByZero => "float floor division by zero"
  | .floatModuloByZero => "float modulo"
  | .complexDivisionByZero => "complex division by zero"
  | .zeroToNegativePower => "0.0 cannot be raised to a negative power"
  | .zeroToComplexPower => "0.0 to a negative or complex power"
  | .powerTooLarge => "(34, 'Numerical result out of range')"
  | .complexPowerTooLarge => "complex exponentiation"
  | .negativeShift => "negative shift count"
  | .shiftTooWide => "too many digits in integer"
  | .undefinedName name =>
    "name '" ++ String.ofList (takeBytes 200 name.toList) ++ "' is not defined"
  | .notAnExpression => "<syntax error>"
  | .notALiteral => "malformed node or string"
  | .tooDeep => "maximum recursion depth exceeded in comparison"
  | .tooDeepToShow => "maximum recursion depth exceeded while getting the repr of an object"
  | .unusedArguments .bytes => "not all arguments converted during bytes formatting"
  | .unusedArguments _ => "not all arguments converted during string formatting"
  | .missingArgument => "not enough arguments for format string"
  | .formatNeeds conversion wanted kind =>
    "%" ++ conversion.toString ++ " format: " ++ wanted ++ " is required, not " ++ kind.name
  | .formatNeedsReal kind => "must be real number, not " ++ kind.name
  | .formatNeedsFloat kind => "float argument required, not " ++ kind.name
  | .formatNeedsCharacter => "%c requires int or char"
  | .formatNeedsByte => "%c requires an integer in range(256) or a single byte"
  | .formatCharacterRange => "%c arg not in range(0x110000)"
  | .formatByteRange => "%c arg not in range(256)"
  | .formatNeedsMapping => "format requires a mapping"
  | .formatNeedsWidth => "* wants int"
  | .formatIncomplete => "incomplete format"
  | .formatIncompleteKey => "incomplete format key"
  | .formatUnknown shown code index =>
    "unsupported format character '" ++ shown.toString ++ "' (0x" ++
      String.ofList (Nat.toDigits 16 code) ++ ") at index " ++ toString index
  | .formatUnknownByte => "character argument not in range(0x110000)"
  | .formatNeedsBytes kind =>
    "%b requires a bytes-like object, or an object that implements __bytes__, not '" ++
      kind.name ++ "'"
  | .widthTooBig => "width too big"
  | .precisionTooBig .bytes => "prec too big"
  | .precisionTooBig _ => "precision too big"
  | .precisionTooLarge => "precision too large"
  | .wordTooSmall word => "Python int too large to convert to C " ++ word
  | .pairExpected index =>
    "cannot convert dictionary update sequence element #" ++ toString index ++ " to a sequence"
  | .pairLength index length =>
    "dictionary update sequence element #" ++ toString index ++ " has length " ++
      toString length ++ "; 2 is required"
  | .tooFewParts count =>
    "not enough values to unpack (expected 2, got " ++ toString count ++ ")"
  | .tooManyParts => "too many values to unpack (expected 2)"
  | .constructorArguments className =>
    className ++ ".new_instance() takes 0 positional arguments but 3 were given"
  | .missingOperands callee names =>
    callee ++ " missing " ++ toString names.length ++ " required positional argument" ++
      (if names.length = 1 then "" else "s") ++ ": " ++ listedNames names
  | .surplusOperands callee expected given =>
    callee ++ " takes " ++ toString expected ++ " positional arguments but " ++ toString given ++
      " were given"
  | .badClassName name => "'" ++ name ++ "' Does not correspond to a class."
  | .missingSource => "Missing Source Code."
  | .badPattern message => message
  | .repetitionTooLarge => "the repetition number is too large"
  | .noSuchGroup => "no such group"
  | .notImplemented => ""
  | .declared .key message => Text.quote message
  | .declared _ message => message

/-- The fault of writing out what cannot be written out. -/
def ofObstacle : Obstacle → Fault
  | .tooLong => .numberTooLong
  | .tooDeep => .tooDeepToShow

/-- The fault of a key that is not there; the key is given as what comes of writing it out. -/
def ofKey : Except Fault String → Fault
  | .ok shown => .missing shown
  | .error .tooDeepToShow => .missingUnshown .tooDeep
  | .error _ => .missingUnshown .tooLong

/-- The text of a fault, which tells the key that is not there. -/
def text : Fault → Except Fault String
  | .missingUnshown obstacle => .error (ofObstacle obstacle)
  | fault => .ok fault.message

/-- A fault as it is shown inside a list. -/
def shown : Fault → Except Fault String
  | .missing key => .ok (FaultKind.key.name ++ "(" ++ key ++ ")")
  | .missingUnshown obstacle => .error (ofObstacle obstacle)
  | .powerTooLarge => .ok (FaultKind.overflow.name ++ Fault.powerTooLarge.message)
  | .outOfMemory => .ok (FaultKind.memory.name ++ "()")
  | .notImplemented => .ok (FaultKind.notImplemented.name ++ "()")
  | .declared kind message => .ok (kind.name ++ "(" ++ Text.quote message ++ ")")
  | fault => .ok (fault.kind.name ++ "(" ++ Text.quote fault.message ++ ")")

end Fault

end Dalvik
