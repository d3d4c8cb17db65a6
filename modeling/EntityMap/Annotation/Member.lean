import EntityMap.Annotation.Alternatives
import EntityMap.Annotation.Display

/-!
# Members

What a meaning has under a name (`Meaning.member`). A class has its name and its place, what all
classes have, and members of its own (`memberTable`, `specialTable`); a class with arguments has
what the class has. What a declared class holds under the names of its fields is given from outside.
-/

namespace EntityMap.Annotation

/-! ## Tables -/

/-- The classes of errors of the system. -/
def systemErrors : List String :=
  ["OSError", "BlockingIOError", "BrokenPipeError", "ChildProcessError",
   "ConnectionAbortedError", "ConnectionError", "ConnectionRefusedError",
   "ConnectionResetError", "FileExistsError", "FileNotFoundError", "InterruptedError",
   "IsADirectoryError", "NotADirectoryError", "PermissionError", "ProcessLookupError",
   "TimeoutError"]

/-- The members that classes have of their own, in groups of classes that have the same. -/
def memberTable : List (List String × String) :=
  [(["bool", "int"],
    "as_integer_ratio bit_count bit_length conjugate denominator from_bytes imag " ++
      "numerator real to_bytes"),
   (["memoryview"],
    "c_contiguous cast contiguous f_contiguous format hex itemsize nbytes ndim obj " ++
      "readonly release shape strides suboffsets tobytes tolist toreadonly"),
   (["bytearray"],
    "append capitalize center clear copy count decode endswith expandtabs extend find " ++
      "fromhex hex index insert isalnum isalpha isascii isdigit islower isspace istitle " ++
      "isupper join ljust lower lstrip maketrans partition pop remove removeprefix " ++
      "removesuffix replace reverse rfind rindex rjust rpartition rsplit rstrip split " ++
      "splitlines startswith strip swapcase title translate upper zfill"),
   (["bytes"],
    "capitalize center count decode endswith expandtabs find fromhex hex index isalnum " ++
      "isalpha isascii isdigit islower isspace istitle isupper join ljust lower lstrip " ++
      "maketrans partition removeprefix removesuffix replace rfind rindex rjust rpartition " ++
      "rsplit rstrip split splitlines startswith strip swapcase title translate upper zfill"),
   (["complex"], "conjugate imag real"),
   (["dict"], "clear copy fromkeys get items keys pop popitem setdefault update values"),
   (["float"], "as_integer_ratio conjugate fromhex hex imag is_integer real"),
   (["frozenset"],
    "copy difference intersection isdisjoint issubset issuperset symmetric_difference " ++
      "union"),
   (["property"], "deleter fdel fget fset getter setter"),
   (["list"], "append clear copy count extend index insert pop remove reverse sort"),
   (["range"], "count index start step stop"),
   (["set"],
    "add clear copy difference difference_update discard intersection intersection_update " ++
      "isdisjoint issubset issuperset pop remove symmetric_difference " ++
      "symmetric_difference_update union update"),
   (["slice"], "indices start step stop"),
   (["str"],
    "capitalize casefold center count encode endswith expandtabs find format format_map " ++
      "index isalnum isalpha isascii isdecimal isdigit isidentifier islower isnumeric " ++
      "isprintable isspace istitle isupper join ljust lower lstrip maketrans partition " ++
      "removeprefix removesuffix replace rfind rindex rjust rpartition rsplit rstrip split " ++
      "splitlines startswith strip swapcase title translate upper zfill"),
   (["tuple", "Sequence"], "count index"),
   (["type"], "mro"),
   (["BaseExceptionGroup", "ExceptionGroup"], "derive exceptions message split subgroup"),
   (["SystemExit"], "code"),
   (["AttributeError"], "name obj"),
   (["ImportError", "ModuleNotFoundError"], "msg name path"),
   (["NameError", "UnboundLocalError"], "name"),
   (systemErrors,
    "characters_written errno filename filename2 strerror"),
   (["StopIteration"], "value"),
   (["SyntaxError", "IndentationError", "TabError"],
    "end_lineno end_offset filename lineno msg offset print_file_and_line text"),
   (["UnicodeDecodeError", "UnicodeEncodeError", "UnicodeTranslateError"],
    "encoding end object reason start"),
   (["datetime"],
    "astimezone combine ctime date day dst fold fromisocalendar fromisoformat fromordinal " ++
      "fromtimestamp hour isocalendar isoformat isoweekday microsecond minute month now " ++
      "replace second strftime strptime time timestamp timetuple timetz today toordinal " ++
      "tzinfo tzname utcfromtimestamp utcnow utcoffset utctimetuple weekday year"),
   (["Mapping"], "get items keys values")]

/-- The members that serve operators and the like, with the classes that have them. -/
def specialTable : List (String × String) :=
  [("bool complex float int",
    "__abs__ __neg__ __pos__ __pow__ __rpow__ __rtruediv__ __truediv__"),
   ("bool bytes bytearray complex float int list str tuple datetime", "__add__"),
   ("bool frozenset int set", "__and__ __rand__ __rxor__ __xor__"),
   ("bool complex float int range NoneType", "__bool__"),
   ("bool float int",
    "__ceil__ __divmod__ __float__ __floor__ __floordiv__ __int__ __rdivmod__ __rfloordiv__ " ++
      "__round__ __trunc__"),
   ("bool bytes complex float int str tuple", "__getnewargs__"),
   ("bool int", "__index__ __invert__ __lshift__ __rlshift__ __rrshift__ __rshift__"),
   ("bool bytes bytearray float int str", "__mod__ __rmod__"),
   ("bool bytes bytearray complex float int list str tuple", "__mul__ __rmul__"),
   ("bool dict frozenset int set", "__or__ __ror__"),
   ("bool complex float int datetime", "__radd__"),
   ("bool complex float frozenset int set datetime", "__rsub__ __sub__"),
   ("bytes", "__bytes__"),
   ("bytes bytearray dict frozenset list range set str tuple Sequence Mapping",
    "__contains__"),
   ("bytes bytearray dict list memoryview range str tuple Sequence Mapping", "__getitem__"),
   ("bytes bytearray dict enumerate filter frozenset list map memoryview range reversed set str " ++
      "tuple zip Sequence Iterable Iterator Mapping", "__iter__"),
   ("bytes bytearray dict frozenset list memoryview range set str tuple Sequence Mapping",
    "__len__"),
   ("bytearray", "__alloc__"),
   ("bytearray dict list memoryview", "__delitem__ __setitem__"),
   ("bytearray list", "__iadd__ __imul__"),
   ("classmethod staticmethod", "__func__ __wrapped__"),
   ("classmethod property staticmethod super", "__get__"),
   ("classmethod property staticmethod", "__isabstractmethod__"),
   ("complex", "__complex__"),
   ("dict enumerate frozenset list set tuple BaseExceptionGroup ExceptionGroup Sequence " ++
      "Iterable Iterator Mapping", "__class_getitem__"),
   ("dict set", "__ior__"),
   ("dict list range Sequence Mapping", "__reversed__"),
   ("enumerate filter map reversed zip Iterator", "__next__"),
   ("float", "__getformat__"),
   ("memoryview", "__enter__ __exit__"),
   ("property", "__delete__ __set__ __set_name__"),
   ("reversed", "__length_hint__"),
   ("reversed zip", "__setstate__"),
   ("set", "__iand__ __isub__ __ixor__"),
   ("super", "__self__ __self_class__ __thisclass__"),
   ("Sequence Iterable Iterator Mapping", "__abstractmethods__ __slots__"),
   ("_SpecialForm _SpecialGenericAlias _GenericAlias _UnionGenericAlias",
    "__call__ __getattr__ __getitem__ __instancecheck__ __mro_entries__ __or__ __ror__ " ++
      "__slots__ __subclasscheck__ __weakref__"),
   ("UnionType", "__getitem__ __or__ __ror__"),
   ("builtin_function_or_method", "__call__ __self__ __text_signature__")]

/-- The members that every error has. -/
def errorMembers : List String :=
  ["__cause__", "__context__", "__dict__", "__setstate__", "__suppress_context__",
   "__traceback__", "add_note", "args", "with_traceback"]

/-- The members that every object has. -/
def objectMembers : List String :=
  ["__class__", "__delattr__", "__dir__", "__doc__", "__eq__", "__format__", "__ge__",
   "__getattribute__", "__getstate__", "__gt__", "__hash__", "__init__", "__init_subclass__",
   "__le__", "__lt__", "__ne__", "__new__", "__reduce__", "__reduce_ex__", "__repr__",
   "__setattr__", "__sizeof__", "__str__", "__subclasshook__"]

/-- The members that every class has as an object. -/
def typeMembers : List String :=
  ["__basicsize__", "__call__", "__dictoffset__", "__flags__", "__instancecheck__",
   "__itemsize__", "__or__", "__prepare__", "__ror__", "__subclasscheck__", "__subclasses__",
   "__text_signature__", "__weakrefoffset__", "mro"]

/-- The classes whose instances can be no keys. -/
def changeableClasses : List String := ["bytearray", "dict", "list", "set", "slice"]

/-- The classes that nothing explains. -/
def unexplainedClasses : List String :=
  ["NoneType", "Iterable", "Iterator", "_GenericAlias", "_UnionGenericAlias"]

/-- The name is one of those that the language of annotations gives a meaning itself. -/
def isSpecialName (name : String) : Bool := name.startsWith "__" && name.endsWith "__"

/-- The class has the member, or its instances do. -/
def hasMember (className name : String) : Bool :=
  (memberTable.any fun r => className ∈ r.1 && name ∈ r.2.splitOn " ")
    || (specialTable.any fun r => className ∈ r.1.splitOn " " && name ∈ r.2.splitOn " ")
    || (className ∈ errorClasses && name ∈ errorMembers) || name ∈ objectMembers

/-- The nearest base of a class, other than that of all objects. -/
def nearestBase? (className : String) : Option String :=
  ((baseTable.find? fun r => className ∈ r.2).map (·.1)).or
    (if className ∈ errorClasses ∧ className ≠ "BaseException" then some "Exception" else none)
where
  baseTable : List (String × List String) :=
    [("int", ["bool"]),
     ("BaseException",
      ["BaseExceptionGroup", "Exception", "GeneratorExit", "KeyboardInterrupt", "SystemExit"]),
     ("BaseExceptionGroup", ["ExceptionGroup"]),
     ("OSError",
      ["BlockingIOError", "ChildProcessError", "ConnectionError", "FileExistsError",
       "FileNotFoundError", "InterruptedError", "IsADirectoryError", "NotADirectoryError",
       "PermissionError", "ProcessLookupError", "TimeoutError"]),
     ("ConnectionError",
      ["BrokenPipeError", "ConnectionAbortedError", "ConnectionRefusedError",
       "ConnectionResetError"]),
     ("Warning",
      ["BytesWarning", "DeprecationWarning", "EncodingWarning", "FutureWarning",
       "ImportWarning", "PendingDeprecationWarning", "ResourceWarning", "RuntimeWarning",
       "SyntaxWarning", "UnicodeWarning", "UserWarning"]),
     ("ArithmeticError", ["FloatingPointError", "OverflowError", "ZeroDivisionError"]),
     ("SyntaxError", ["IndentationError"]),
     ("IndentationError", ["TabError"]),
     ("LookupError", ["IndexError", "KeyError"]),
     ("ImportError", ["ModuleNotFoundError"]),
     ("RuntimeError", ["NotImplementedError", "RecursionError"]),
     ("NameError", ["UnboundLocalError"]),
     ("ValueError", ["UnicodeError"]),
     ("UnicodeError", ["UnicodeDecodeError", "UnicodeEncodeError", "UnicodeTranslateError"]),
     ("Iterable", ["Iterator"])]

/-- The bases of a class, nearest first, as far as they are followed. -/
def basesOf : Nat → String → List String
  | 0, _ => []
  | n + 1, className =>
    match nearestBase? className with
    | some base => base :: basesOf n base
    | none => if className = "object" then [] else ["object"]

namespace Meaning

/-- The module that a known class comes from. -/
def moduleOf (className : String) : String :=
  if className = "datetime" then "datetime"
  else if className ∈ importedCollections then "collections.abc"
  else "builtins"

/-- The class of a meaning. -/
def classOf : Meaning → Meaning
  | value .null => absence
  | value (.bool _) => known "bool"
  | value (.int _) => known "int"
  | value (.real _) => known "float"
  | value (.text _) => known "str"
  | value (.bytes _) => known "bytes"
  | value (.buffer _) => known "bytearray"
  | value (.moment _) => known "datetime"
  | value _ => known "object"
  | complex _ => known "complex"
  | ellipsis => known "ellipsis"
  | known name => known (if name ∈ importedCollections then "ABCMeta" else "type")
  | declared _ => known "type"
  | form _ => known "_SpecialForm"
  | listForm => known "_SpecialGenericAlias"
  | generic .. => known "GenericAlias"
  | listOf _ => known "_GenericAlias"
  | alternatives barred _ => known (if barred then "UnionType" else "_UnionGenericAlias")
  | unpacked _ => known "_UnpackGenericAlias"
  | reference _ => known "ForwardRef"
  | tuple _ => known "tuple"
  | list _ => known "list"
  | set isFrozen _ => known (if isFrozen then "frozenset" else "set")
  | mapping _ => known "dict"
  | slice .. => known "slice"
  | entity className => declared className
  | object shown =>
    known (if shown ∈ functionNames then "builtin_function_or_method" else "object")

/-- The name of a meaning's class. -/
def className (m : Meaning) : String := (m.classOf.name?).getD ""

/-- What explains an object to a reader: prose, which is no annotation. -/
def prose : Meaning := text "a text that explains"

/-! ## Lookup -/

/-- A member that a class gives its instances, which is shown by its name. -/
def instanceMember (className name : String) : Except AnnotationError Meaning :=
  match name with
  | "__doc__" => .ok (if className ∈ unexplainedClasses then null else prose)
  | "__hash__" => .ok (if className ∈ changeableClasses then null else object name)
  | _ => if hasMember className name then .ok (object name) else .error (.noAttribute name)

/-- A member of a value. -/
def valueMember (m : Meaning) (name : String) : Except AnnotationError Meaning :=
  if name = "__class__" then .ok m.classOf else instanceMember m.className name

/-- What every class has. -/
def classMember (self : Meaning) (className place : String) (bases : List Meaning)
    (name : String) : Except AnnotationError Meaning :=
  match name with
  | "__name__" | "__qualname__" => .ok (text className)
  | "__module__" => .ok (text place)
  | "__class__" => .ok self.classOf
  | "__dict__" => .ok (mapping [(text "__doc__", prose)])
  | "__mro__" => .ok (tuple (self :: bases))
  | "__bases__" => .ok (tuple (bases.take 1))
  | "__base__" => .ok (bases.headD null)
  | _ => if name ∈ typeMembers then .ok (object name) else instanceMember className name

/-- The first and the last moment of the calendar. -/
def momentMember? (name : String) : Option Meaning :=
  match name with
  | "min" => some (value (.moment (.ofParts ⟨1, 1, 1⟩ 0 0 0 0 none)))
  | "max" => some (value (.moment (.ofParts ⟨9999, 12, 31⟩ 23 59 59 999999 none)))
  | "resolution" => some (object "0:00:00.000001")
  | _ => none

/-- What a known class has under a name. -/
def knownMember (className name : String) : Except AnnotationError Meaning :=
  match if className = "datetime" then momentMember? name else none with
  | some m => .ok m
  | none =>
    classMember (known className) className (moduleOf className) ((basesOf 8 className).map known)
      name

/-- What a number has under a name. -/
def numberMember (m real imaginary : Meaning) (name : String) : Except AnnotationError Meaning :=
  match name with
  | "real" => .ok real
  | "imag" => .ok imaginary
  | _ => valueMember m name

/-- What a form or a result of one has: a name of its own, and what the class that it stands for has
unless the name is special. -/
def formMember (m : Meaning) (ownName : String) (origin? : Option Meaning)
    (arguments? : Option (List Meaning)) (name : String) : Except AnnotationError Meaning :=
  match name, origin?, arguments? with
  | "__name__", _, _ | "__qualname__", _, _ => .ok (text ownName)
  | "__module__", _, _ => .ok (text "typing")
  | "__origin__", some origin, _ => .ok origin
  | "__args__", _, some ms => .ok (tuple ms)
  | "__parameters__", _, some _ => .ok (tuple [])
  | "__dict__", some _, _ => .ok (mapping [(text "_name", text ownName)])
  | _, some (known origin), _ =>
    if isSpecialName name then valueMember m name else knownMember origin name
  | _, _, _ => valueMember m name

/-- What a meaning has under a name. `own` says what a declared class holds there. -/
def member (own : String → String → Option Meaning) (m : Meaning) (name : String) :
    Except AnnotationError Meaning :=
  match m with
  | known className => knownMember className name
  | declared className =>
    match own className name with
    | some v => .ok v
    | none => classMember m className moduleName [known "object"] name
  | generic origin ms isSpread =>
    match name with
    | "__origin__" => .ok (known origin)
    | "__args__" => .ok (tuple ms)
    | "__parameters__" => .ok (tuple [])
    | "__unpacked__" => .ok (bool isSpread)
    | "__class__" => .ok m.classOf
    | _ => knownMember origin name
  | listForm => formMember m "List" (some (known "list")) none name
  | listOf ms => formMember m "List" (some (known "list")) (some ms) name
  | alternatives false ms => formMember m m.shortName (some (form "Union")) (some ms) name
  | alternatives true ms =>
    match name with
    | "__args__" => .ok (tuple ms)
    | "__parameters__" => .ok (tuple [])
    | "__module__" => .ok (text "types")
    | _ => valueMember m name
  | form s => formMember m s none none name
  | value (.bool b) => numberMember m (int (if b then 1 else 0)) (int 0) name
  | value (.int i) =>
    match name with
    | "numerator" => .ok m
    | "denominator" => .ok (int 1)
    | _ => numberMember m (int i) (int 0) name
  | value (.real _) => numberMember m m (value (.real (.zero false))) name
  | complex z => numberMember m (value (.real z.re)) (value (.real z.im)) name
  | entity className =>
    match own className name with
    | some v => .ok v
    | none => valueMember m name
  | object s =>
    match name with
    | "__name__" | "__qualname__" =>
      if speakingObjects.any fun o => o.2 = s then .error (.noAttribute name) else .ok (text s)
    | "__module__" =>
      if s ∈ functionNames then .ok (text (if s = "open" then "io" else "builtins"))
      else .error (.noAttribute name)
    | _ => valueMember m name
  | _ => valueMember m name

end Meaning

end EntityMap.Annotation
