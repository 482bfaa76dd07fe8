set_option autoImplicit false

namespace DocSpace.Scope

def methods : List (String × List String) :=
  [
    ("str",
      ["encode", "replace", "split", "rsplit", "join", "capitalize", "casefold", "title",
        "center", "count", "expandtabs", "find", "partition", "index", "ljust", "lower",
        "lstrip", "rfind", "rindex", "rjust", "rstrip", "rpartition", "splitlines", "strip",
        "swapcase", "translate", "upper", "startswith", "endswith", "removeprefix",
        "removesuffix", "isascii", "islower", "isupper", "istitle", "isspace", "isdecimal",
        "isdigit", "isnumeric", "isalpha", "isalnum", "isidentifier", "isprintable", "zfill",
        "format", "format_map"]),
    ("int", ["conjugate", "bit_length", "bit_count", "to_bytes", "as_integer_ratio"]),
    ("float", ["conjugate", "as_integer_ratio", "hex", "is_integer"]),
    ("list",
      ["clear", "copy", "append", "insert", "extend", "pop", "remove", "index", "count",
        "reverse", "sort"]),
    ("dict",
      ["get", "setdefault", "pop", "popitem", "keys", "items", "values", "update", "clear",
        "copy"]),
    ("tuple", ["index", "count"]),
    ("bytes",
      ["capitalize", "center", "count", "decode", "endswith", "expandtabs", "find", "hex",
        "index", "isalnum", "isalpha", "isascii", "isdigit", "islower", "isspace", "istitle",
        "isupper", "join", "ljust", "lower", "lstrip", "partition", "replace", "removeprefix",
        "removesuffix", "rfind", "rindex", "rjust", "rpartition", "rsplit", "rstrip", "split",
        "splitlines", "startswith", "strip", "swapcase", "title", "translate", "upper", "zfill"]),
    ("type", ["mro"]),
    ("bytearray",
      ["append", "capitalize", "center", "clear", "copy", "count", "decode", "endswith",
        "expandtabs", "extend", "find", "hex", "index", "insert", "isalnum", "isalpha",
        "isascii", "isdigit", "islower", "isspace", "istitle", "isupper", "join", "ljust",
        "lower", "lstrip", "partition", "pop", "remove", "replace", "removeprefix",
        "removesuffix", "reverse", "rfind", "rindex", "rjust", "rpartition", "rsplit", "rstrip",
        "split", "splitlines", "startswith", "strip", "swapcase", "title", "translate", "upper",
        "zfill"]),
    ("complex", ["conjugate"]),
    ("frozenset",
      ["copy", "difference", "intersection", "isdisjoint", "issubset", "issuperset",
        "symmetric_difference", "union"]),
    ("memoryview", ["release", "tobytes", "hex", "tolist", "cast", "toreadonly"]),
    ("property", ["getter", "setter", "deleter"]),
    ("range", ["count", "index"]),
    ("set",
      ["add", "clear", "copy", "discard", "difference", "difference_update", "intersection",
        "intersection_update", "isdisjoint", "issubset", "issuperset", "pop", "remove",
        "symmetric_difference", "symmetric_difference_update", "union", "update"]),
    ("slice", ["indices"]),
    ("BaseException", ["with_traceback", "add_note"])]

def computed : List (String × List String) :=
  [
    ("int", ["real", "imag", "numerator", "denominator"]),
    ("float", ["real", "imag"]),
    ("memoryview",
      ["obj", "nbytes", "readonly", "itemsize", "format", "ndim", "shape", "strides",
        "suboffsets", "c_contiguous", "f_contiguous", "contiguous"]),
    ("BaseException", ["args"])]

def stored : List (String × List String) :=
  [
    ("complex", ["real", "imag"]),
    ("property", ["fget", "fset", "fdel"]),
    ("range", ["start", "stop", "step"]),
    ("slice", ["start", "stop", "step"]),
    ("OSError", ["errno", "strerror", "filename", "filename2"])]

def descriptorKinds : List (String × List (String × List String)) :=
  [("method", methods), ("attribute", computed), ("member", stored)]

def descriptorKind? (owner name : String) : Option String :=
  (descriptorKinds.find? fun k => ((k.2.lookup owner).getD []).contains name).map (·.1)

end DocSpace.Scope
