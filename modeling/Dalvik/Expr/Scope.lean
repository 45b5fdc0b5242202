import Dalvik.Value.Operator

/-!
What names stand for in an expression: the values that a scope gives them, or else functions,
classes and texts that are always there. Functions and classes cannot be used for anything, but a
name of one is not undefined.
-/

namespace Dalvik.Expr

abbrev Scope := List (String × Value)

namespace Scope

def functionNames : List String :=
  ["__build_class__", "__import__", "abs", "aiter", "all", "anext", "any", "ascii", "bin",
    "breakpoint", "callable", "chr", "compile", "delattr", "dir", "divmod", "eval", "exec",
    "format", "getattr", "globals", "hasattr", "hash", "hex", "id", "input", "isinstance",
    "issubclass", "iter", "len", "locals", "max", "min", "next", "oct", "open", "ord", "pow",
    "print", "repr", "round", "setattr", "sorted", "sum", "vars"]

def classNames : List String :=
  ["bool", "bytearray", "bytes", "classmethod", "complex", "dict", "enumerate", "filter", "float",
    "frozenset", "int", "list", "map", "memoryview", "object", "property", "range", "reversed",
    "set", "slice", "staticmethod", "str", "super", "tuple", "type", "zip"]

def faultClassNames : List String :=
  ["ArithmeticError", "AssertionError", "AttributeError", "BaseException", "BaseExceptionGroup",
    "BlockingIOError", "BrokenPipeError", "BufferError", "BytesWarning", "ChildProcessError",
    "ConnectionAbortedError", "ConnectionError", "ConnectionRefusedError", "ConnectionResetError",
    "DeprecationWarning", "EOFError", "EncodingWarning", "Exception", "ExceptionGroup",
    "FileExistsError", "FileNotFoundError", "FloatingPointError", "FutureWarning", "GeneratorExit",
    "ImportError", "ImportWarning", "IndentationError", "IndexError", "InterruptedError",
    "IsADirectoryError", "KeyError", "KeyboardInterrupt", "LookupError", "MemoryError",
    "ModuleNotFoundError", "NameError", "NotADirectoryError", "NotImplementedError", "OSError",
    "OverflowError", "PendingDeprecationWarning", "PermissionError", "ProcessLookupError",
    "RecursionError", "ReferenceError", "ResourceWarning", "RuntimeError", "RuntimeWarning",
    "StopAsyncIteration", "StopIteration", "SyntaxError", "SyntaxWarning", "SystemError",
    "SystemExit", "TabError", "TimeoutError", "TypeError", "UnboundLocalError",
    "UnicodeDecodeError", "UnicodeEncodeError", "UnicodeError", "UnicodeTranslateError",
    "UnicodeWarning", "UserWarning", "ValueError", "Warning", "ZeroDivisionError"]

/-- Names of modules that expressions can see. -/
def moduleNames : List String :=
  ["re", "ast"]

/-- Names of the classes that carry out instructions. -/
def handlerNames : List String :=
  ["OpCode", "op_APut", "op_AddInt", "op_AddIntLit", "op_Aget", "op_AndInt", "op_AndIntLit",
    "op_ArrayFillData", "op_ArrayLength", "op_Const", "op_ConstString", "op_DivInt",
    "op_DivIntLit", "op_GoTo", "op_IfEq", "op_IfEqz", "op_IfGe", "op_IfGez", "op_IfGt", "op_IfGtz",
    "op_IfLe", "op_IfLez", "op_IfLt", "op_IfLtz", "op_IfNe", "op_IfNez", "op_IntToType",
    "op_Invoke", "op_Move", "op_MoveException", "op_MoveResult", "op_MulInt", "op_MulIntLit",
    "op_NewArray", "op_NewInstance", "op_OrInt", "op_PackedSwitch", "op_RemInt", "op_RemIntLit",
    "op_Return", "op_SGet", "op_SPut", "op_ShlIntLit", "op_SubInt", "op_XorInt2Addr",
    "op_XorIntLit"]

def classValue (name : String) : Value :=
  .outside "type" ("<class '" ++ name ++ "'>")

/-- What is always there under a name. -/
def standing? (name : String) : Option Value :=
  if functionNames.contains name then
    some (.outside "builtin_function_or_method" ("<built-in function " ++ name ++ ">"))
  else if classNames.contains name || faultClassNames.contains name then some (classValue name)
  else if moduleNames.contains name then some (.outside "module" ("<module '" ++ name ++ "'>"))
  else if handlerNames.contains name then some (classValue ("smali.opcodes." ++ name))
  else
    match name with
    | "__name__" => some (.text "smali.opcodes")
    | "__package__" => some (.text "smali")
    -- these two are texts as well, but depend on where the program is installed
    | "__file__" | "__cached__" => some (.outside "str" name)
    | "__doc__" => some .null
    | "__builtins__" => some (.outside "dict" name)
    | "__loader__" => some (.outside "SourceFileLoader" name)
    | "__spec__" => some (.outside "ModuleSpec" name)
    | "print_function" => some (.outside "_Feature" name)
    | "copyright" | "credits" | "license" => some (.outside "_Printer" name)
    | "EnvironmentError" | "IOError" => some (classValue "OSError")
    | "Ellipsis" => some .ellipsis
    | "NotImplemented" => some (.outside "NotImplementedType" "NotImplemented")
    | "__debug__" => some (.bool true)
    | "help" => some (.outside "_Helper" "help")
    | "exit" | "quit" => some (.outside "Quitter" name)
    | _ => none

def get? (scope : Scope) (name : String) : Option Value :=
  (scope.lookup name).or (standing? name)

end Scope

end Dalvik.Expr
