import HistoryMetrics.Python.Node

/-! # Variables that a piece of source names

    A name counts as a variable unless it belongs to the language or is the receiver of a method;
    an attribute of the receiver counts under its qualified name. A function that is called by its
    name is not a variable, nor is a method that is called on the receiver.

    - `named`: what one node names
    - `namedVariables`: what the nodes of a forest name, level by level
-/

namespace HistoryMetrics.Python

/-- The receivers of methods. -/
def isReceiver (name : String) : Bool := name == "self" || name == "cls"

/-- **The names that the language provides.** -/
def builtinNames : List String :=
  ["ArithmeticError", "AssertionError", "AttributeError", "BaseException", "BaseExceptionGroup",
   "BlockingIOError", "BrokenPipeError", "BufferError", "BytesWarning", "ChildProcessError",
   "ConnectionAbortedError", "ConnectionError", "ConnectionRefusedError", "ConnectionResetError",
   "DeprecationWarning", "EOFError", "Ellipsis", "EncodingWarning", "EnvironmentError",
   "Exception", "ExceptionGroup", "False", "FileExistsError", "FileNotFoundError",
   "FloatingPointError", "FutureWarning", "GeneratorExit", "IOError", "ImportError",
   "ImportWarning", "IndentationError", "IndexError", "InterruptedError", "IsADirectoryError",
   "KeyError", "KeyboardInterrupt", "LookupError", "MemoryError", "ModuleNotFoundError",
   "NameError", "None", "NotADirectoryError", "NotImplemented", "NotImplementedError", "OSError",
   "OverflowError", "PendingDeprecationWarning", "PermissionError", "ProcessLookupError",
   "RecursionError", "ReferenceError", "ResourceWarning", "RuntimeError", "RuntimeWarning",
   "StopAsyncIteration", "StopIteration", "SyntaxError", "SyntaxWarning", "SystemError",
   "SystemExit", "TabError", "TimeoutError", "True", "TypeError", "UnboundLocalError",
   "UnicodeDecodeError", "UnicodeEncodeError", "UnicodeError", "UnicodeTranslateError",
   "UnicodeWarning", "UserWarning", "ValueError", "Warning", "ZeroDivisionError",
   "__build_class__", "__debug__", "__doc__", "__import__", "__loader__", "__name__",
   "__package__", "__spec__", "abs", "aiter", "all", "anext", "any", "ascii", "bin", "bool",
   "breakpoint", "bytearray", "bytes", "callable", "chr", "classmethod", "compile", "complex",
   "copyright", "credits", "delattr", "dict", "dir", "divmod", "enumerate", "eval", "exec",
   "exit", "filter", "float", "format", "frozenset", "getattr", "globals", "hasattr", "hash",
   "help", "hex", "id", "input", "int", "isinstance", "issubclass", "iter", "len", "license",
   "list", "locals", "map", "max", "memoryview", "min", "next", "object", "oct", "open", "ord",
   "pow", "print", "property", "quit", "range", "repr", "reversed", "round", "set", "setattr",
   "slice", "sorted", "staticmethod", "str", "sum", "super", "tuple", "type", "vars", "zip"]

/-- Is the name provided by the language? -/
def isBuiltin (name : String) : Bool := builtinNames.contains name

/-- **The variables that one node names**, those of the nodes inside it apart. -/
def named : Node → List String
  | .expr (.name _ id) => if isReceiver id || isBuiltin id then [] else [id]
  | .expr (.attribute _ (.name _ r) attr) => if isReceiver r then [r ++ "." ++ attr] else []
  | .pattern (.star _ name) => name.toList
  | .pattern (.capture _ _ name) => name.toList
  | _ => []

/-- **The variables that the nodes of a forest name**, in the order of its levels. -/
def namedVariables (ns : List Node) : List String := (Node.levels ns).flatMap named

/-- The variables of several forests one after the other. -/
def variablesOfEach (roots : List Node) : List String := roots.flatMap fun n => namedVariables [n]

end HistoryMetrics.Python
