import DocSpace.Hint

set_option autoImplicit false

namespace DocSpace.Scope

def faultClasses : List String :=
  ["ArithmeticError", "AssertionError", "AttributeError", "BaseException", "BaseExceptionGroup",
    "BlockingIOError", "BrokenPipeError", "BufferError", "BytesWarning", "ChildProcessError",
    "ConnectionAbortedError", "ConnectionError", "ConnectionRefusedError", "ConnectionResetError",
    "DeprecationWarning", "EOFError", "EncodingWarning", "Exception", "ExceptionGroup",
    "FileExistsError", "FileNotFoundError", "FloatingPointError", "FutureWarning",
    "GeneratorExit", "ImportError", "ImportWarning", "IndentationError", "IndexError",
    "InterruptedError", "IsADirectoryError", "KeyError", "KeyboardInterrupt", "LookupError",
    "MemoryError", "ModuleNotFoundError", "NameError", "NotADirectoryError",
    "NotImplementedError", "OSError", "OverflowError", "PendingDeprecationWarning",
    "PermissionError", "ProcessLookupError", "RecursionError", "ReferenceError",
    "ResourceWarning", "RuntimeError", "RuntimeWarning", "StopAsyncIteration", "StopIteration",
    "SyntaxError", "SyntaxWarning", "SystemError", "SystemExit", "TabError", "TimeoutError",
    "TypeError", "UnboundLocalError", "UnicodeDecodeError", "UnicodeEncodeError", "UnicodeError",
    "UnicodeTranslateError", "UnicodeWarning", "UserWarning", "ValueError", "Warning",
    "ZeroDivisionError"]

def otherClasses : List String :=
  ["bytearray", "classmethod", "complex", "enumerate", "filter", "frozenset", "map", "memoryview",
    "property", "range", "reversed", "set", "slice", "staticmethod", "super", "zip"]

def valueClasses : List ClassType :=
  [.text, .int, .double, .bool, .list, .dict, .tuple, .bytes, .object, .type]

def aliases : List (String × ClassType) :=
  [("EnvironmentError", .other "OSError"), ("IOError", .other "OSError")]

def classes : List (String × ClassType) :=
  valueClasses.map (fun c => (c.name, c)) ++
    (faultClasses ++ otherClasses).map (fun n => (n, .other n)) ++ aliases

def containers : List ClassType :=
  [.list, .dict, .tuple, .type, .other "set", .other "frozenset", .other "enumerate",
    .other "BaseExceptionGroup", .other "ExceptionGroup"]

def functions : List String :=
  ["__build_class__", "__import__", "abs", "aiter", "all", "anext", "any", "ascii", "bin",
    "breakpoint", "callable", "chr", "compile", "delattr", "dir", "divmod", "eval", "exec",
    "format", "getattr", "globals", "hasattr", "hash", "hex", "id", "input", "isinstance",
    "issubclass", "iter", "len", "locals", "max", "min", "next", "oct", "open", "ord", "pow",
    "print", "repr", "round", "setattr", "sorted", "sum", "vars"]

def constants : List (String × String) :=
  [("Ellipsis", "ellipsis"), ("NotImplemented", "NotImplementedType")]

end DocSpace.Scope
