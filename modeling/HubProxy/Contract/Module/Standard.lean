import HubProxy.Contract.Module.Ancestry
import HubProxy.Contract.Module.TypeValue
import HubProxy.Text.Blank

/-!
# What every module knows

The classes of the core and of the homes that a module can name, with their bases, and the names
that a module starts with. A module that defines one of those names again keeps the place of the
name.
-/

namespace HubProxy.ContractModule

/-- The classes of the core that stand right below `object`. -/
def coreClasses : List String :=
  ["int", "str", "float", "bytes", "bytearray", "complex", "list", "tuple", "dict", "set",
    "frozenset", "type", "range", "slice", "memoryview", "property", "staticmethod", "classmethod",
    "super", "enumerate", "zip", "map", "filter", "reversed", "BaseException"]

/-- Further classes of the core, each list with the class right above. -/
def coreFamilies : List (String × List String) :=
  [("int", ["bool"]),
    ("BaseException",
      ["BaseExceptionGroup", "Exception", "GeneratorExit", "KeyboardInterrupt", "SystemExit"]),
    ("Exception",
      ["ArithmeticError", "AssertionError", "AttributeError", "BufferError", "EOFError",
        "ImportError", "LookupError", "MemoryError", "NameError", "OSError", "ReferenceError",
        "RuntimeError", "StopAsyncIteration", "StopIteration", "SyntaxError", "SystemError",
        "TypeError", "ValueError", "Warning"]),
    ("ArithmeticError", ["FloatingPointError", "OverflowError", "ZeroDivisionError"]),
    ("ImportError", ["ModuleNotFoundError"]), ("LookupError", ["IndexError", "KeyError"]),
    ("NameError", ["UnboundLocalError"]),
    ("OSError",
      ["BlockingIOError", "ChildProcessError", "ConnectionError", "FileExistsError",
        "FileNotFoundError", "InterruptedError", "IsADirectoryError", "NotADirectoryError",
        "PermissionError", "ProcessLookupError", "TimeoutError"]),
    ("ConnectionError",
      ["BrokenPipeError", "ConnectionAbortedError", "ConnectionRefusedError",
        "ConnectionResetError"]),
    ("RuntimeError", ["NotImplementedError", "RecursionError"]),
    ("SyntaxError", ["IndentationError"]), ("IndentationError", ["TabError"]),
    ("ValueError", ["UnicodeError"]),
    ("UnicodeError", ["UnicodeDecodeError", "UnicodeEncodeError", "UnicodeTranslateError"]),
    ("Warning",
      ["BytesWarning", "DeprecationWarning", "EncodingWarning", "FutureWarning", "ImportWarning",
        "PendingDeprecationWarning", "ResourceWarning", "RuntimeWarning", "SyntaxWarning",
        "UnicodeWarning", "UserWarning"]),
    ("BaseExceptionGroup", ["ExceptionGroup"])]

def coreFunctions : List String :=
  ["abs", "aiter", "all", "anext", "any", "ascii", "bin", "breakpoint", "callable", "chr",
    "compile", "delattr", "dir", "divmod", "eval", "exec", "format", "getattr", "globals",
    "hasattr", "hash", "hex", "id", "input", "isinstance", "issubclass", "iter", "len", "locals",
    "max", "min", "next", "oct", "open", "ord", "pow", "print", "repr", "round", "setattr",
    "sorted", "sum", "vars"]

/-- The abstract classes of collections, each with the abstract classes right above it. -/
def abstractFamilies : List (String × List String) :=
  [("Awaitable", []), ("Coroutine", ["Awaitable"]), ("AsyncIterable", []),
    ("AsyncIterator", ["AsyncIterable"]), ("AsyncGenerator", ["AsyncIterator"]), ("Hashable", []),
    ("Iterable", []), ("Iterator", ["Iterable"]), ("Generator", ["Iterator"]),
    ("Reversible", ["Iterable"]), ("Sized", []), ("Container", []), ("Callable", []),
    ("Collection", ["Sized", "Iterable", "Container"]), ("Set", ["Collection"]),
    ("MutableSet", ["Set"]), ("Mapping", ["Collection"]), ("MutableMapping", ["Mapping"]),
    ("MappingView", ["Sized"]), ("KeysView", ["MappingView", "Set"]),
    ("ItemsView", ["MappingView", "Set"]), ("ValuesView", ["MappingView", "Collection"]),
    ("Sequence", ["Reversible", "Collection"]), ("MutableSequence", ["Sequence"]),
    ("ByteString", ["Sequence"])]

def enumClass (name : String) : ClassRef :=
  ⟨"enum", name, none, if name = "Flag" ∨ name = "IntFlag" then .flags else .enumeration⟩

def objectClass : ClassRef := coreClass "object"

def hubClass : ClassRef := { home := "hubgen.contract", name := "Hub" }

def contextClass : ClassRef := { home := "hubgen.contract", name := "ClientProxy" }

/-- The classes with the given homes that have other bases than `object`. -/
def standardBases (c : ClassRef) : List ClassRef :=
  if c = objectClass then []
  else
    let named := if c.home = "collections.abc" then abstractFamilies.lookup c.name else none
    let above := coreFamilies.find? fun (_, below) => c.home = coreHome && below.contains c.name
    match named, above with
    | some (first :: rest), _ => (first :: rest).map abstractClass
    | _, some (base, _) =>
      if c.name = "ExceptionGroup" then [coreClass base, coreClass "Exception"]
      else [coreClass base]
    | _, _ =>
      if c = formClass "Protocol" then [formClass "Generic"]
      else if c = enumClass "IntEnum" then [coreClass "int", enumClass "ReprEnum"]
      else if c = enumClass "StrEnum" then [coreClass "str", enumClass "ReprEnum"]
      else if c = enumClass "IntFlag" then
        [coreClass "int", enumClass "ReprEnum", enumClass "Flag"]
      else if c = enumClass "Flag" || c = enumClass "ReprEnum" then [enumClass "Enum"]
      else if c.home = "datetime" && c.name = "datetime" then [{ c with name := "date" }]
      else if c.home = "datetime" && c.name = "timezone" then [{ c with name := "tzinfo" }]
      else if c.home = "collections" && c.name = "ChainMap" then [abstractClass "MutableMapping"]
      else if c.home = "collections" && c.name != "deque" then [coreClass "dict"]
      else [objectClass]

/-- The ancestors of a class that no module defines, starting with itself. No chain of bases is
longer than the first argument. -/
def standardOrder : Nat → ClassRef → List ClassRef
  | 0, c => [c]
  | steps + 1, c =>
    let bases := standardBases c
    let orders := bases.map (standardOrder steps) ++ [bases]
    match merge (orders.flatten.length + 1) orders with
    | .ok rest => c :: rest
    | .error _ => [c]

/-- The classes that let themselves and their subclasses take any type arguments. -/
def givesArguments (c : ClassRef) : Bool :=
  (c.home == coreHome
      && ["list", "tuple", "dict", "set", "frozenset", "enumerate", "BaseExceptionGroup"].contains
        c.name)
    || (c.home == "collections.abc"
      && ["Awaitable", "AsyncIterable", "Iterable", "Container", "Callable", "MappingView"].contains
        c.name)
    || (c.home == "collections" && ["deque", "defaultdict"].contains c.name)

/-- The classes that no other class can have as a base. -/
def isClosed (c : ClassRef) : Bool :=
  (c.home == coreHome && ["bool", "range", "slice", "memoryview"].contains c.name)
    || (c.home == "datetime" && c.name == "timezone")

/-- Whether the objects of a class are laid out otherwise than those of its bases. -/
def hasLayout (c : ClassRef) : Bool :=
  if c.home = coreHome then
    (c == objectClass || coreClasses.contains c.name)
      || ["BaseExceptionGroup", "SystemExit", "AttributeError", "ImportError", "NameError",
        "OSError", "StopIteration", "SyntaxError", "UnicodeDecodeError", "UnicodeEncodeError",
        "UnicodeTranslateError"].contains c.name
  else if c.home = "collections" then ["deque", "OrderedDict", "defaultdict"].contains c.name
  else if c.home = "datetime" then c.name != "tzinfo"
  else c == enumClass "IntEnum" || c == enumClass "IntFlag" || c == abstractClass "MappingView"
    || c.home == "decimal" || c.home == "uuid" || c.home == "dataclasses"

/-- What classes hold that is no function of a contract, with the homes of the classes. It stands
before functions of the same names. -/
def hiddenNames : List (String × List (String × String)) :=
  [(coreHome, [
    ("int", "conjugate bit_length bit_count to_bytes from_bytes as_integer_ratio real imag " ++
      "numerator denominator"),
    ("float", "conjugate as_integer_ratio fromhex hex is_integer real imag"),
    ("complex", "conjugate real imag"),
    ("str", "encode replace split rsplit join capitalize casefold title center count " ++
      "expandtabs find partition index ljust lower lstrip rfind rindex rjust rstrip rpartition " ++
      "splitlines strip swapcase translate upper startswith endswith removeprefix removesuffix " ++
      "isascii islower isupper istitle isspace isdecimal isdigit isnumeric isalpha isalnum " ++
      "isidentifier isprintable zfill format format_map"),
    ("bytes", "capitalize center count decode endswith expandtabs find fromhex hex index " ++
      "isalnum isalpha isascii isdigit islower isspace istitle isupper join ljust lower lstrip " ++
      "partition replace removeprefix removesuffix rfind rindex rjust rpartition rsplit rstrip " ++
      "split splitlines startswith strip swapcase title translate upper zfill"),
    ("bytearray", "append capitalize center clear copy count decode endswith expandtabs extend " ++
      "find fromhex hex index insert isalnum isalpha isascii isdigit islower isspace istitle " ++
      "isupper join ljust lower lstrip partition pop remove replace removeprefix removesuffix " ++
      "reverse rfind rindex rjust rpartition rsplit rstrip split splitlines startswith strip " ++
      "swapcase title translate upper zfill"),
    ("list", "clear copy append insert extend pop remove index count reverse sort"),
    ("tuple", "index count"),
    ("dict", "get setdefault pop popitem keys items values update fromkeys clear copy"),
    ("set", "add clear copy discard difference difference_update intersection " ++
      "intersection_update isdisjoint issubset issuperset pop remove symmetric_difference " ++
      "symmetric_difference_update union update"),
    ("frozenset", "copy difference intersection isdisjoint issubset issuperset " ++
      "symmetric_difference union"),
    ("type", "mro"),
    ("range", "count index start stop step"),
    ("slice", "indices start stop step"),
    ("memoryview", "release tobytes hex tolist cast toreadonly obj nbytes readonly itemsize " ++
      "format ndim shape strides suboffsets c_contiguous f_contiguous contiguous"),
    ("property", "getter setter deleter fget fset fdel"),
    ("BaseException", "with_traceback add_note args"),
    ("BaseExceptionGroup", "derive split subgroup message exceptions"),
    ("OSError", "errno strerror filename filename2 characters_written"),
    ("ImportError", "msg name path"),
    ("StopIteration", "value"),
    ("SystemExit", "code"),
    ("NameError", "name"),
    ("AttributeError", "name obj"),
    ("SyntaxError", "msg filename lineno offset text end_lineno end_offset print_file_and_line"),
    ("UnicodeDecodeError", "encoding object start end reason")]),
  ("collections", [
    ("deque", "append appendleft clear copy count extend extendleft index insert pop popleft " ++
      "remove reverse rotate maxlen"),
    ("OrderedDict", "fromkeys setdefault pop popitem keys values items update clear copy " ++
      "move_to_end"),
    ("defaultdict", "copy default_factory")]),
  ("datetime", [
    ("date", "fromtimestamp fromordinal fromisoformat fromisocalendar today ctime strftime " ++
      "timetuple isocalendar isoformat isoweekday toordinal weekday replace year month day min " ++
      "max resolution"),
    ("datetime", "now utcnow fromtimestamp utcfromtimestamp strptime combine fromisoformat " ++
      "date time timetz ctime timetuple timestamp utctimetuple isoformat utcoffset tzname dst " ++
      "replace astimezone hour minute second microsecond tzinfo fold min max resolution"),
    ("time", "isoformat strftime utcoffset tzname dst replace fromisoformat hour minute second " ++
      "microsecond tzinfo fold min max resolution"),
    ("timedelta", "total_seconds days seconds microseconds resolution min max"),
    ("timezone", "tzname utcoffset dst fromutc utc min max"),
    ("tzinfo", "tzname utcoffset dst fromutc")]),
  ("decimal", [
    ("Decimal", "exp ln log10 next_minus next_plus normalize to_integral to_integral_exact " ++
      "to_integral_value sqrt compare compare_signal max max_mag min min_mag next_toward " ++
      "quantize remainder_near fma is_canonical is_finite is_infinite is_nan is_qnan is_snan " ++
      "is_signed is_zero is_normal is_subnormal adjusted canonical conjugate radix copy_abs " ++
      "copy_negate logb logical_invert number_class to_eng_string compare_total " ++
      "compare_total_mag copy_sign same_quantum logical_and logical_or logical_xor rotate " ++
      "scaleb shift from_float as_tuple as_integer_ratio real imag")]),
  ("uuid", [
    ("UUID", "bytes bytes_le fields time_low time_mid time_hi_version clock_seq_hi_variant " ++
      "clock_seq_low time clock_seq node hex urn variant version int is_safe")])]

/-- What a class holds that is no function of a contract. -/
def hiddenNamesOf (c : ClassRef) : List String :=
  let names := ((hiddenNames.lookup c.home).bind (·.lookup c.name)).getD ""
  (Text.splitRuns (· == ' ') names.toList).map String.ofList

/-- The functions with told parameters that classes give their subclasses. -/
def standardFunctions (c : ClassRef) : List String :=
  let value (names : List String) : List String := names.map (· ++ " value")
  if c.home = "collections.abc" then
    match c.name with
    | "Coroutine" | "Generator" => ["send value", "throw typ val tb", "close"]
    | "AsyncGenerator" => ["asend value", "athrow typ val tb", "aclose"]
    | "Set" => ["isdisjoint other"]
    | "MutableSet" => value ["add", "discard", "remove"] ++ ["pop", "clear"]
    | "Mapping" => ["get key default", "keys", "items", "values"]
    | "MutableMapping" =>
      ["pop key default", "popitem", "clear", "update other kwds", "setdefault key default"]
    | "Sequence" => ["index value start stop", "count value"]
    | "MutableSequence" =>
      ["insert index value", "append value", "clear", "reverse", "extend values", "pop index",
        "remove value"]
    | _ => []
  else if c.home = "collections" then
    match c.name with
    | "Counter" =>
      ["total", "most_common n", "elements", "fromkeys iterable v", "update iterable kwds",
        "subtract iterable kwds", "copy"]
    | "ChainMap" =>
      ["get key default", "fromkeys iterable args", "copy", "new_child m kwargs", "popitem",
        "pop key args", "clear"]
    | _ => []
  else if c = coreClass "bytes" || c = coreClass "bytearray" then ["maketrans frm to"]
  else []

/-- The generic types that have a name of their own for some class. -/
def standardAliases : List Alias :=
  let core := [("List", "list", some 1), ("Dict", "dict", some 2), ("Set", "set", some 1),
    ("FrozenSet", "frozenset", some 1), ("Tuple", "tuple", none), ("Type", "type", some 1)]
  let gathered := [("Deque", "deque", 1), ("DefaultDict", "defaultdict", 2),
    ("OrderedDict", "OrderedDict", 2), ("Counter", "Counter", 1)]
  let shared := [("Hashable", 0), ("Sized", 0), ("ByteString", 0), ("Awaitable", 1),
    ("Coroutine", 3), ("AsyncIterable", 1), ("AsyncIterator", 1), ("Iterable", 1), ("Iterator", 1),
    ("Reversible", 1), ("Container", 1), ("Collection", 1), ("Callable", 2), ("MutableSet", 1),
    ("Mapping", 2), ("MutableMapping", 2), ("Sequence", 1), ("MutableSequence", 1),
    ("MappingView", 1), ("KeysView", 1), ("ItemsView", 2), ("ValuesView", 1), ("Generator", 3),
    ("AsyncGenerator", 2)]
  core.map (fun (name, origin, arity) => ⟨name, coreClass origin, arity⟩)
    ++ gathered.map (fun (name, origin, arity) =>
      ⟨name, { home := "collections", name := origin }, some arity⟩)
    ++ [⟨"ChainMap", ⟨"collections", "ChainMap", none, .abstract⟩, some 2⟩,
      ⟨"AbstractSet", abstractClass "Set", some 1⟩]
    ++ shared.map fun (name, arity) => ⟨name, abstractClass name, some arity⟩

def standardForms : List String :=
  ["Optional", "Union", "Literal", "ClassVar", "Final", "NoReturn", "Never", "Self",
    "LiteralString", "TypeAlias", "TypeGuard", "Concatenate", "Required", "NotRequired", "Unpack"]

def typingName? (name : String) : Option TypeValue :=
  if ["Any", "Generic", "Protocol", "Annotated", "TypeVar"].contains name then
    some (.cls (formClass name))
  else if name = "Text" then some (.cls (coreClass "str"))
  else if name = "TYPE_CHECKING" then some (.literal (.truth false))
  else if standardForms.contains name then some (.form name)
  else (standardAliases.find? (·.name == name)).map .alias

def standardClasses : List (String × List String) :=
  [("datetime", ["datetime", "date", "time", "timedelta", "timezone", "tzinfo"]),
    ("decimal", ["Decimal"]), ("uuid", ["UUID"]), ("dataclasses", ["InitVar"]),
    ("collections", ["deque", "OrderedDict", "defaultdict", "Counter"])]

def homeName? (home name : String) : Option TypeValue :=
  if home = "typing" then typingName? name
  else if home = "collections.abc" then
    (abstractFamilies.lookup name).map fun _ => .cls (abstractClass name)
  else if home = "dataclasses" && name = "KW_ONLY" then some .keywordMark
  else if home = "collections" && name = "abc" then some (.module "collections.abc")
  else if home = "collections" && name = "ChainMap" then
    some (.cls ⟨home, name, none, .abstract⟩)
  else if home = "enum" then
    if ["Enum", "IntEnum", "Flag", "IntFlag", "StrEnum", "ReprEnum"].contains name then
      some (.cls (enumClass name))
    else none
  else if ((standardClasses.lookup home).getD []).contains name then
    some (.cls { home, name })
  else none

def coreName? (name : String) : Option TypeValue :=
  if name = "Ellipsis" then some .ellipsis
  else if name = "object" || coreClasses.contains name
      || coreFamilies.any (fun (_, below) => below.contains name) then
    some (.cls (coreClass name))
  else if name = "EnvironmentError" || name = "IOError" then some (.cls (coreClass "OSError"))
  else if coreFunctions.contains name then some (.operation name)
  else none

/-- The names that a module starts with: homes, typing forms, classes of values and the classes that
hubs and their clients are described by. -/
def startNames : List (String × TypeValue) :=
  let homes := ["collections", "dataclasses", "datetime", "decimal", "enum", "typing", "uuid"]
  let forms := ["Annotated", "Any", "Awaitable", "Callable", "ClassVar", "Dict", "FrozenSet",
    "Generic", "Iterable", "List", "Literal", "Mapping", "MutableSequence", "Optional", "Protocol",
    "Sequence", "Set", "Tuple", "TypeVar", "Union"]
  let held (home : String) (names : List String) : List (String × TypeValue) :=
    names.filterMap fun name => (homeName? home name).map fun v => (name, v)
  homes.map (fun home => (home, .module home)) ++ held "typing" forms
    ++ held "datetime" ["date", "time", "timedelta"] ++ held "decimal" ["Decimal"]
    ++ held "uuid" ["UUID"] ++ [("ClientProxy", .cls contextClass), ("Hub", .cls hubClass)]

end HubProxy.ContractModule
