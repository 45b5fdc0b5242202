import Dalvik.Expr.Basic

/-!
The grammar of expressions. Each reader takes the tokens of one phrase and gives back the rest; a
text is an expression if the readers leave nothing but line ends.
-/

namespace Dalvik.Expr

abbrev Reader (α : Type) := List Token → Option (α × List Token)

def binaryOf (symbol : String) : Option (Nat × Operator) :=
  match symbol with
  | "|" => some (1, .or)
  | "^" => some (2, .xor)
  | "&" => some (3, .and)
  | "<<" => some (4, .shl)
  | ">>" => some (4, .shr)
  | "+" => some (5, .add)
  | "-" => some (5, .sub)
  | "*" => some (6, .mul)
  | "/" => some (6, .div)
  | "//" => some (6, .floorDiv)
  | "%" => some (6, .mod)
  | "@" => some (6, .matMul)
  | _ => none

def unaryOf (symbol : String) : Option Unary :=
  match symbol with
  | "+" => some .plus
  | "-" => some .minus
  | "~" => some .invert
  | _ => none

def testOf : Reader Test
  | .symbol "<" :: rest => some (.order .lt, rest)
  | .symbol "<=" :: rest => some (.order .le, rest)
  | .symbol ">" :: rest => some (.order .gt, rest)
  | .symbol ">=" :: rest => some (.order .ge, rest)
  | .symbol "==" :: rest => some (.order .eq, rest)
  | .symbol "!=" :: rest => some (.order .ne, rest)
  | .keyword "in" :: rest => some (.inside true, rest)
  | .keyword "not" :: .keyword "in" :: rest => some (.inside false, rest)
  | .keyword "is" :: .keyword "not" :: rest => some (.same false, rest)
  | .keyword "is" :: rest => some (.same true, rest)
  | _ => none

def expect (symbol : String) : List Token → Option (List Token)
  | .symbol found :: rest => if found = symbol then some rest else none
  | _ => none

def expectWord (word : String) : List Token → Option (List Token)
  | .keyword found :: rest => if found = word then some rest else none
  | _ => none

def isSpread : Expr → Bool
  | .spread _ => true
  | _ => false

mutual

/-- What a loop variable may be. -/
def isTarget : Expr → Bool
  | .name _ => true
  | .member _ _ => true
  | .subscript _ _ => true
  | .tuple items => areTargets items
  | .list items => areTargets items
  | .spread operand => isTarget operand
  | _ => false

def areTargets : List Expr → Bool
  | [] => true
  | item :: rest => isTarget item && areTargets rest

end

/-- The value of texts or byte strings that stand side by side. -/
def joinConstants : Constant → List Token → Option (Expr × List Token)
  | .text s, .constant (.text t) :: rest => joinConstants (.text (s ++ t)) rest
  | .bytes s, .constant (.bytes t) :: rest => joinConstants (.bytes (s ++ t)) rest
  | .text _, .constant (.bytes _) :: _ => none
  | .bytes _, .constant (.text _) :: _ => none
  | .bytes _, .filled _ :: _ => none
  | .text _, .filled _ :: rest => joinFilled rest
  | value, rest => some (.constant value, rest)
where
  joinFilled : List Token → Option (Expr × List Token)
    | .constant (.text _) :: rest => joinFilled rest
    | .filled _ :: rest => joinFilled rest
    | .constant (.bytes _) :: _ => none
    | rest => some (.other, rest)

/-- Which arguments may follow those before: any, no plain one, or only such as have names. -/
inductive ArgumentPhase where
  | plain
  | named
  | tables
deriving DecidableEq

/-- Which parameters may follow those before. -/
inductive ParameterPhase where
  | plain
  /-- One had a default, so that the next ones need one too. -/
  | defaulted
  /-- A star that stands alone needs a name after it. -/
  | bare
  | starred
  | closed
deriving DecidableEq

/-- The parameters of a function that were read so far. -/
structure Parameters where
  phase : ParameterPhase := .plain
  some : Bool := false
  slashed : Bool := false

namespace Parameters

/-- One more parameter, with a default or without. -/
def named (parameters : Parameters) (default : Bool) : Option Parameters :=
  match parameters.phase, default with
  | .plain, false => .some { parameters with some := true }
  | .plain, true | .defaulted, true => .some { parameters with phase := .defaulted, some := true }
  | .bare, _ | .starred, _ => .some { parameters with phase := .starred }
  | .defaulted, false | .closed, _ => none

/-- A slash after parameters that have no names for the caller. -/
def slash (parameters : Parameters) : Option Parameters :=
  match parameters.phase with
  | .plain | .defaulted =>
    if parameters.some && !parameters.slashed then .some { parameters with slashed := true }
    else none
  | _ => none

/-- A star, alone or with the name of a parameter for all further arguments. -/
def star (parameters : Parameters) (alone : Bool) : Option Parameters :=
  match parameters.phase with
  | .plain | .defaulted => .some { parameters with phase := if alone then .bare else .starred }
  | _ => none

/-- A parameter for all further arguments that have names; it is the last one. -/
def close (parameters : Parameters) : Option Parameters :=
  match parameters.phase with
  | .bare | .closed => none
  | _ => .some { parameters with phase := .closed }

end Parameters

/-- Whether an item is neither marked to be taken apart nor given a name in passing. -/
def isPlainItem : List Token → Bool
  | .symbol "*" :: _ | .name _ :: .symbol ":=" :: _ => false
  | _ => true

mutual

/-- A lambda, or a condition with its two outcomes, or neither. -/
def readExpression : Nat → Reader Expr
  | 0, _ => none
  | fuel + 1, .keyword "lambda" :: rest => readLambda fuel {} rest
  | fuel + 1, input => do
    let (yes, rest) ← readDisjunction fuel input
    match rest with
    | .keyword "if" :: rest =>
      let (test, rest) ← readDisjunction fuel rest
      let rest ← expectWord "else" rest
      let (no, rest) ← readExpression fuel rest
      return (.choice test yes no, rest)
    | _ => return (yes, rest)

/-- An expression that may be given a name in passing. -/
def readNamed : Nat → Reader Expr
  | 0, _ => none
  | fuel + 1, .name _ :: .symbol ":=" :: rest => do
    let (_, rest) ← readExpression fuel rest
    return (.other, rest)
  | fuel + 1, input => readExpression fuel input

def readItem : Nat → Reader Expr
  | 0, _ => none
  | fuel + 1, .symbol "*" :: rest => do
    let (operand, rest) ← readBinary fuel 1 rest
    return (.spread operand, rest)
  | fuel + 1, input => readNamed fuel input

def readDisjunction : Nat → Reader Expr
  | 0, _ => none
  | fuel + 1, input => do
    let (left, rest) ← readConjunction fuel input
    match rest with
    | .keyword "or" :: rest =>
      let (right, rest) ← readDisjunction fuel rest
      return (.either left right, rest)
    | _ => return (left, rest)

def readConjunction : Nat → Reader Expr
  | 0, _ => none
  | fuel + 1, input => do
    let (left, rest) ← readInversion fuel input
    match rest with
    | .keyword "and" :: rest =>
      let (right, rest) ← readConjunction fuel rest
      return (.both left right, rest)
    | _ => return (left, rest)

def readInversion : Nat → Reader Expr
  | 0, _ => none
  | fuel + 1, .keyword "not" :: rest => do
    let (operand, rest) ← readInversion fuel rest
    return (.negation operand, rest)
  | fuel + 1, input => do
    let (first, rest) ← readBinary fuel 1 input
    let (tests, rest) ← readChain fuel rest
    match tests with
    | [] => return (first, rest)
    | _ => return (.chain first tests, rest)

def readChain : Nat → Reader (List (Test × Expr))
  | 0, _ => none
  | fuel + 1, input =>
    match testOf input with
    | none => some ([], input)
    | some (test, rest) => do
      let (operand, rest) ← readBinary fuel 1 rest
      let (others, rest) ← readChain fuel rest
      return ((test, operand) :: others, rest)

/-- Operators of at least the given level, which group to the left. -/
def readBinary : Nat → Nat → Reader Expr
  | 0, _, _ => none
  | fuel + 1, level, input => do
    let (left, rest) ← readFactor fuel input
    readBinaryRest fuel level left rest

def readBinaryRest : Nat → Nat → Expr → Reader Expr
  | 0, _, _, _ => none
  | fuel + 1, level, left, input =>
    match input with
    | .symbol symbol :: rest =>
      match binaryOf symbol with
      | some (found, operator) =>
        if level ≤ found then do
          let (right, rest) ← readBinary fuel (found + 1) rest
          readBinaryRest fuel level (.binary operator left right) rest
        else some (left, input)
      | none => some (left, input)
    | _ => some (left, input)

def readFactor : Nat → Reader Expr
  | 0, _ => none
  | fuel + 1, input =>
    match input with
    | .symbol symbol :: rest =>
      match unaryOf symbol with
      | some operator => do
        let (operand, rest) ← readFactor fuel rest
        return (.unary operator operand, rest)
      | none => readPower fuel input
    | _ => readPower fuel input

def readPower : Nat → Reader Expr
  | 0, _ => none
  | fuel + 1, input => do
    let (base, rest) ← readAwaited fuel input
    match rest with
    | .symbol "**" :: rest =>
      let (exponent, rest) ← readFactor fuel rest
      return (.binary .pow base exponent, rest)
    | _ => return (base, rest)

def readAwaited : Nat → Reader Expr
  | 0, _ => none
  | fuel + 1, .keyword "await" :: rest => do
    let (_, rest) ← readPrimary fuel rest
    return (.other, rest)
  | fuel + 1, input => readPrimary fuel input

def readPrimary : Nat → Reader Expr
  | 0, _ => none
  | fuel + 1, input => do
    let (target, rest) ← readAtom fuel input
    readPrimaryRest fuel target rest

/-- Members, calls and subscripts that follow a value. -/
def readPrimaryRest : Nat → Expr → Reader Expr
  | 0, _, _ => none
  | fuel + 1, target, .symbol "." :: .name word :: rest =>
    readPrimaryRest fuel (.member target word) rest
  | _ + 1, _, .symbol "." :: _ => none
  | fuel + 1, target, .symbol "(" :: rest => do
    let (arguments, rest) ← readArguments fuel true .plain rest
    readPrimaryRest fuel (.call target arguments) rest
  | fuel + 1, target, .symbol "[" :: rest => do
    let (index, rest) ← readSlices fuel rest
    let rest ← expect "]" rest
    readPrimaryRest fuel (.subscript target index) rest
  | _ + 1, target, input => some (target, input)

/-- Arguments up to the closing parenthesis. A generator has to be the only one. -/
def readArguments : Nat → Bool → ArgumentPhase → Reader (List Expr)
  | 0, _, _, _ => none
  | _ + 1, _, _, .symbol ")" :: rest => some ([], rest)
  | fuel + 1, first, phase, input => do
    let (argument, phase, rest) ← match input with
      | .symbol "*" :: rest => do
        if phase = .tables then none
        let (operand, rest) ← readExpression fuel rest
        pure (Expr.spread operand, phase, rest)
      | .symbol "**" :: rest => do
        let (_, rest) ← readExpression fuel rest
        pure (Expr.other, .tables, rest)
      | .name _ :: .symbol "=" :: rest => do
        let (_, rest) ← readExpression fuel rest
        pure (Expr.other, if phase = .plain then .named else phase, rest)
      | _ => do
        if phase != .plain then none
        let (argument, rest) ← readNamed fuel input
        let (generated, rest) ← readClauses fuel rest
        if generated then
          if !first || (expect ")" rest).isNone then none
          pure (Expr.other, phase, rest)
        else pure (argument, phase, rest)
    match rest with
    | .symbol "," :: rest =>
      let (others, rest) ← readArguments fuel false phase rest
      return (argument :: others, rest)
    | .symbol ")" :: rest => return ([argument], rest)
    | _ => none

/-- What stands between the brackets of a subscript. -/
def readSlices : Nat → Reader Expr
  | 0, _ => none
  | fuel + 1, input => do
    let (first, rest) ← readSliceItem fuel input
    match rest with
    | .symbol "," :: rest =>
      let (others, rest) ← readSliceRest fuel rest
      return (.tuple (first :: others), rest)
    | _ => if isSpread first then return (.tuple [first], rest) else return (first, rest)

def readSliceRest : Nat → Reader (List Expr)
  | 0, _ => none
  | _ + 1, .symbol "]" :: rest => some ([], .symbol "]" :: rest)
  | fuel + 1, input => do
    let (first, rest) ← readSliceItem fuel input
    match rest with
    | .symbol "," :: rest =>
      let (others, rest) ← readSliceRest fuel rest
      return (first :: others, rest)
    | _ => return ([first], rest)

def readSliceItem : Nat → Reader Expr
  | 0, _ => none
  | fuel + 1, .symbol ":" :: rest => readSliceBounds fuel 2 rest
  | fuel + 1, .symbol "*" :: rest => do
    let (operand, rest) ← readExpression fuel rest
    return (.spread operand, rest)
  | fuel + 1, input => do
    let (first, rest) ← readNamed fuel input
    match rest with
    | .symbol ":" :: rest => if isPlainItem input then readSliceBounds fuel 2 rest else none
    | _ => return (first, rest)

/-- Up to two more bounds; the tokens stand after a colon. -/
def readSliceBounds : Nat → Nat → Reader Expr
  | 0, _, _ => none
  | fuel + 1, left, input =>
    match input with
    | .symbol "]" :: _ | .symbol "," :: _ => some (.other, input)
    | .symbol ":" :: rest => if left > 1 then readSliceBounds fuel (left - 1) rest else none
    | _ => do
      let (_, rest) ← readExpression fuel input
      match rest with
      | .symbol ":" :: rest => if left > 1 then readSliceBounds fuel (left - 1) rest else none
      | _ => return (.other, rest)

/-- The parameters of a function and its body; the tokens stand after the keyword or a comma. -/
def readLambda : Nat → Parameters → Reader Expr
  | 0, _, _ => none
  | fuel + 1, parameters, .symbol ":" :: rest => do
    if parameters.phase = .bare then none
    let (_, rest) ← readExpression fuel rest
    return (.other, rest)
  | fuel + 1, parameters, input => do
    let (parameters, rest) ← match input with
      | .name _ :: .symbol "=" :: rest => do
        let (_, rest) ← readExpression fuel rest
        pure (← parameters.named true, rest)
      | .name _ :: rest => pure (← parameters.named false, rest)
      | .symbol "*" :: .name _ :: rest => pure (← parameters.star false, rest)
      | .symbol "*" :: rest => pure (← parameters.star true, rest)
      | .symbol "**" :: .name _ :: rest => pure (← parameters.close, rest)
      | .symbol "/" :: rest => pure (← parameters.slash, rest)
      | _ => none
    match rest with
    | .symbol "," :: rest => readLambda fuel parameters rest
    | .symbol ":" :: _ => readLambda fuel parameters rest
    | _ => none

/-- The clauses of a comprehension, and whether there are any. -/
def readClauses : Nat → Reader Bool
  | 0, _ => none
  | fuel + 1, .keyword "async" :: .keyword "for" :: rest => readFor fuel rest
  | fuel + 1, .keyword "for" :: rest => readFor fuel rest
  | _ + 1, input => some (false, input)

def readFor : Nat → Reader Bool
  | 0, _ => none
  | fuel + 1, input => do
    let rest ← readTargets fuel input
    let rest ← expectWord "in" rest
    let (_, rest) ← readDisjunction fuel rest
    let rest ← readConditions fuel rest
    let (_, rest) ← readClauses fuel rest
    return (true, rest)

def readConditions : Nat → List Token → Option (List Token)
  | 0, _ => none
  | fuel + 1, .keyword "if" :: rest => do
    let (_, rest) ← readDisjunction fuel rest
    readConditions fuel rest
  | _ + 1, input => some input

def readTargets : Nat → List Token → Option (List Token)
  | 0, _ => none
  | fuel + 1, input => do
    let (target, rest) ← match input with
      | .symbol "*" :: rest => readPrimary fuel rest
      | _ => readPrimary fuel input
    if !isTarget target then none
    match rest with
    | .symbol "," :: .keyword "in" :: rest => return .keyword "in" :: rest
    | .symbol "," :: rest => readTargets fuel rest
    | _ => return rest

/-- Items up to a closing symbol, and whether a comma followed the last. -/
def readItems : Nat → String → Reader (List Expr)
  | 0, _, _ => none
  | fuel + 1, close, input =>
    match expect close input with
    | some rest => some ([], rest)
    | none => do
      let (first, rest) ← readItem fuel input
      match rest with
      | .symbol "," :: rest =>
        let (others, rest) ← readItems fuel close rest
        return (first :: others, rest)
      | _ =>
        let rest ← expect close rest
        return ([first], rest)

/-- A value, a name, or anything in brackets. -/
def readAtom : Nat → Reader Expr
  | 0, _ => none
  | _ + 1, .name word :: rest => some (.name word, rest)
  | _ + 1, .constant value :: rest => joinConstants value rest
  | _ + 1, .filled _ :: rest => joinConstants.joinFilled rest
  | _ + 1, .symbol "..." :: rest => some (.constant .ellipsis, rest)
  | fuel + 1, .symbol "(" :: rest => readParenthesized fuel rest
  | fuel + 1, .symbol "[" :: rest => readList fuel rest
  | fuel + 1, .symbol "\x7b" :: rest => readBraced fuel rest
  | _ + 1, _ => none

def readParenthesized : Nat → Reader Expr
  | 0, _ => none
  | _ + 1, .symbol ")" :: rest => some (.tuple [], rest)
  | fuel + 1, .keyword "yield" :: rest => readYielded fuel rest
  | fuel + 1, input => do
    let (first, rest) ← readItem fuel input
    let (generated, rest) ← readClauses fuel rest
    if generated then
      if isSpread first then none
      let rest ← expect ")" rest
      return (.other, rest)
    else
      match rest with
      | .symbol "," :: rest =>
        let (others, rest) ← readItems fuel ")" rest
        return (.tuple (first :: others), rest)
      | _ =>
        if isSpread first then none
        let rest ← expect ")" rest
        return (first, rest)

def readYielded : Nat → Reader Expr
  | 0, _ => none
  | fuel + 1, .keyword "from" :: rest => do
    let (_, rest) ← readExpression fuel rest
    let rest ← expect ")" rest
    return (.other, rest)
  | fuel + 1, input => do
    let rest ← readYieldedItems fuel input
    return (.other, rest)

/-- Items up to the closing parenthesis, none of them given a name in passing. -/
def readYieldedItems : Nat → List Token → Option (List Token)
  | 0, _ => none
  | _ + 1, .symbol ")" :: rest => some rest
  | fuel + 1, input => do
    let (_, rest) ← match input with
      | .symbol "*" :: rest => readBinary fuel 1 rest
      | _ => readExpression fuel input
    match rest with
    | .symbol "," :: rest => readYieldedItems fuel rest
    | _ => expect ")" rest

def readList : Nat → Reader Expr
  | 0, _ => none
  | _ + 1, .symbol "]" :: rest => some (.list [], rest)
  | fuel + 1, input => do
    let (first, rest) ← readItem fuel input
    let (generated, rest) ← readClauses fuel rest
    if generated then
      if isSpread first then none
      let rest ← expect "]" rest
      return (.other, rest)
    else
      match rest with
      | .symbol "," :: rest =>
        let (others, rest) ← readItems fuel "]" rest
        return (.list (first :: others), rest)
      | _ =>
        let rest ← expect "]" rest
        return (.list [first], rest)

/-- A table or a set; the tokens stand after the opening brace. -/
def readBraced : Nat → Reader Expr
  | 0, _ => none
  | fuel + 1, input =>
    match input with
    | .symbol "\x7d" :: rest => some (.dict [], rest)
    | .symbol "**" :: _ => do
      let (entries, rest) ← readEntries fuel input
      return (.dict entries, rest)
    | _ => do
      let (first, rest) ← readItem fuel input
      match rest with
      | .symbol ":" :: rest => if isPlainItem input then readTable fuel first rest else none
      | _ =>
        let (generated, rest) ← readClauses fuel rest
        if generated then
          if isSpread first then none
          let rest ← expect "\x7d" rest
          return (.other, rest)
        else
          match rest with
          | .symbol "," :: rest =>
            let (others, rest) ← readItems fuel "\x7d" rest
            return (.set (first :: others), rest)
          | _ =>
            let rest ← expect "\x7d" rest
            return (.set [first], rest)

/-- A table; the tokens stand after its first key and the colon. -/
def readTable : Nat → Expr → Reader Expr
  | 0, _, _ => none
  | fuel + 1, key, input => do
    let (value, rest) ← readExpression fuel input
    let (generated, rest) ← readClauses fuel rest
    if generated then
      let rest ← expect "\x7d" rest
      return (.other, rest)
    else
      match rest with
      | .symbol "," :: rest =>
        let (others, rest) ← readEntries fuel rest
        return (.dict ((some key, value) :: others), rest)
      | _ =>
        let rest ← expect "\x7d" rest
        return (.dict [(some key, value)], rest)

/-- Entries up to the closing brace. -/
def readEntries : Nat → Reader (List (Option Expr × Expr))
  | 0, _ => none
  | _ + 1, .symbol "\x7d" :: rest => some ([], rest)
  | fuel + 1, input => do
    let (entry, rest) ← match input with
      | .symbol "**" :: rest => do
        let (operand, rest) ← readBinary fuel 1 rest
        pure ((none, operand), rest)
      | _ => do
        let (key, rest) ← readExpression fuel input
        let rest ← expect ":" rest
        let (value, rest) ← readExpression fuel rest
        pure ((some key, value), rest)
    match rest with
    | .symbol "," :: rest =>
      let (others, rest) ← readEntries fuel rest
      return (entry :: others, rest)
    | _ =>
      let rest ← expect "\x7d" rest
      return ([entry], rest)

end

def onlyLineEnds : List Token → Bool
  | [] => true
  | .lineEnd :: rest => onlyLineEnds rest
  | _ => false

/-- Expressions separated by commas, up to the end. -/
def readExpressions : Nat → Nat → Reader (List Expr × Bool)
  | 0, _, _ => none
  | count + 1, fuel, input => do
    let (first, rest) ← readExpression fuel input
    match rest with
    | .symbol "," :: rest =>
      if onlyLineEnds rest then return (([first], true), rest)
      else
        let ((others, _), rest) ← readExpressions count fuel rest
        return ((first :: others, true), rest)
    | _ => return (([first], false), rest)

/-- The expressions in the fields of all texts among the tokens. -/
def fieldsIn (input : List Token) : List (List Char) :=
  input.flatMap fun
    | .filled fields => fields
    | _ => []

/-- The expression that the characters write. What stands in a field of a text has to be an
expression too, as if in parentheses. -/
def ofChars : Nat → List Char → Option Expr
  | 0, _ => none
  | depth + 1, text => do
    let input ← tokens text
    if (fieldsIn input).any fun field => (ofChars depth ('(' :: field ++ [')'])).isNone then none
    let fuel := 32 * (input.length + 2)
    let ((found, comma), rest) ← readExpressions fuel fuel input
    if onlyLineEnds rest then
      match found, comma with
      | [single], false => return single
      | _, _ => return .tuple found
    else none

/-- The expression that a text writes, `none` if it writes none. -/
def ofString (text : String) : Option Expr :=
  ofChars (text.length + 1) text.toList

end Dalvik.Expr
