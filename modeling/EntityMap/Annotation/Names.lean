/-!
# Names that annotations may use

The names that mean something in an annotation without being declared: classes whose instances
can be iterated over (`iteratedClasses`), other classes (`plainClasses`), functions
(`functionNames`), and the classes and forms that every module of entities brings in
(`importedClasses`, `importedCollections`, `formNames`).
-/

namespace EntityMap

/-- The name of the module that declares the classes of a catalogue. -/
def moduleName : String := "models"

namespace Annotation

/-- Classes whose instances are iterated over and are neither texts, bytes nor mappings. -/
def iteratedClasses : List String :=
  ["bytearray", "enumerate", "filter", "frozenset", "list", "map", "memoryview", "range",
   "reversed", "set", "tuple", "zip"]

/-- Classes of errors and warnings. -/
def errorClasses : List String :=
  ["ArithmeticError", "AssertionError", "AttributeError", "BaseException", "BaseExceptionGroup",
   "BlockingIOError", "BrokenPipeError", "BufferError", "BytesWarning", "ChildProcessError",
   "ConnectionAbortedError", "ConnectionError", "ConnectionRefusedError", "ConnectionResetError",
   "DeprecationWarning", "EOFError", "EncodingWarning", "Exception", "ExceptionGroup",
   "FileExistsError", "FileNotFoundError", "FloatingPointError", "FutureWarning",
   "GeneratorExit", "ImportError", "ImportWarning", "IndentationError", "IndexError",
   "InterruptedError", "IsADirectoryError", "KeyError", "KeyboardInterrupt", "LookupError",
   "MemoryError", "ModuleNotFoundError", "NameError", "NotADirectoryError",
   "NotImplementedError", "OSError", "OverflowError", "PendingDeprecationWarning",
   "PermissionError", "ProcessLookupError", "RecursionError", "ReferenceError",
   "ResourceWarning", "RuntimeError", "RuntimeWarning", "StopAsyncIteration", "StopIteration",
   "SyntaxError", "SyntaxWarning", "SystemError", "SystemExit", "TabError", "TimeoutError",
   "TypeError", "UnboundLocalError", "UnicodeDecodeError", "UnicodeEncodeError",
   "UnicodeError", "UnicodeTranslateError", "UnicodeWarning", "UserWarning", "ValueError",
   "Warning", "ZeroDivisionError"]

/-- Other names of a class. -/
def otherClassNames : List (String × String) :=
  [("EnvironmentError", "OSError"), ("IOError", "OSError")]

/-- Classes that are not iterated over, and the texts, bytes and mappings. -/
def plainClasses : List String :=
  ["bool", "bytes", "classmethod", "complex", "dict", "float", "int", "object", "property",
   "slice", "staticmethod", "str", "super", "type"] ++ errorClasses

/-- Functions. -/
def functionNames : List String :=
  ["__build_class__", "__import__", "abs", "aiter", "all", "anext", "any", "ascii", "bin",
   "breakpoint", "callable", "chr", "compile", "copyright", "credits", "delattr", "dir", "divmod",
   "eval", "exec", "format", "getattr", "globals", "hasattr", "hash", "hex", "id", "input",
   "isinstance", "issubclass", "iter", "len", "license", "locals", "max", "min", "next", "oct",
   "open", "ord", "pow", "print", "repr", "round", "setattr", "sorted", "sum", "vars"]

/-- Objects that are shown by a text of their own. -/
def speakingObjects : List (String × String) :=
  [("NotImplemented", "NotImplemented"),
   ("exit", "Use exit() or Ctrl-D (i.e. EOF) to exit"),
   ("quit", "Use quit() or Ctrl-D (i.e. EOF) to exit"),
   ("help", "Type help() for interactive help, or help(object) for help about object.")]

/-- Collections that are no classes of their own but say what an instance can do. -/
def importedCollections : List String := ["Sequence", "Iterable", "Iterator", "Mapping"]

/-- Classes that a module of entities brings in. -/
def importedClasses : List String := "datetime" :: importedCollections

/-- Forms that need arguments in brackets. -/
def formNames : List String := ["Optional", "Union"]

/-- The names about itself that a module has beside its own name, and holds nothing under. -/
def emptyModuleNames : List String := ["__doc__", "__loader__", "__package__", "__spec__"]

/-- Classes that take arguments in brackets. -/
def genericClasses : List String :=
  ["BaseExceptionGroup", "ExceptionGroup", "dict", "enumerate", "frozenset", "list", "set",
   "tuple", "type"] ++ importedCollections

/-- Instances of the class are iterated over, and it is neither a text, bytes nor a mapping. -/
def isIterated (className : String) : Bool :=
  className ∈ iteratedClasses
    || className ∈ ["Sequence", "Iterable", "Iterator", "GenericAlias", "_GenericAlias"]

end Annotation

end EntityMap
