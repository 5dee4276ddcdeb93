import Interplay.Limits.Reader
import Interplay.Evaluate.Stock

/-!
What a limits table and its groups answer to besides categories and ceilings.

Both are records, and every record has members that describe it: its type, its fields, its methods.
Members are found by their names like ceilings, and have members themselves.  Most of them cannot be
compared with anything and none of them can be changed.
-/

namespace Interplay

inductive LimitMember where
  /-- A value, which others can be compared with; null is nothing. -/
  | plain (content : Value)
  /-- Something of a type that is no type of values, and what can be shown of it. -/
  | special (typeName : String) (shown : Value)

structure RecordField where
  name : String
  typeName : String
  initial : String

structure RecordType where
  label : String
  home : String
  fields : List RecordField

namespace RecordType

def description (record : RecordType) : String :=
  let shown := record.fields.map fun field => field.name ++ ": '" ++
      field.typeName ++ "' = " ++ field.initial
  record.label ++ "(" ++ String.intercalate ", " shown ++ ")"

def fieldTypes (record : RecordType) : List (String × Value) :=
  record.fields.map fun field => (field.name, .text field.typeName)

def fieldNames (record : RecordType) : Value :=
  .texts (record.fields.map RecordField.name)

end RecordType

namespace LimitMember

open Record (Listing builtin common typeIn? wrapper)

def shown : LimitMember → Value
  | plain content => content
  | special _ shown => shown

/-- Why a value is not compared with something of a special type; a view of a mapping turns the
comparison round. -/
def refusal (comparison : Comparison) (value : Value) (typeName : String) : Mishap :=
  if typeName = "mappingproxy" then .notComparable comparison.swapped.symbol "dict" value.typeName
  else .notComparable comparison.symbol value.typeName typeName

def ofText (content : String) : LimitMember :=
  .plain (.text content)

def find (record : RecordType) (content : Value) (name : String) : LimitMember :=
  match name with
  | "__annotations__" => .plain (.object record.fieldTypes)
  | "__dict__" => .plain content
  | "__doc__" => ofText record.description
  | "__match_args__" => .special "tuple" record.fieldNames
  | "__module__" => ofText record.home
  | _ =>
    match Record.typeOf? name with
    | some typeName => .special typeName .null
    | none => .plain .null

/-! ### Members of members -/

def ofType (record : RecordType) : String → Listing
  | "dict" => [
    (builtin, ["__class_getitem__", "__contains__", "__getitem__", "__reversed__", "clear",
      "copy", "fromkeys", "get",
      "items", "keys", "pop", "popitem", "setdefault", "update", "values"]),
    (wrapper, ["__delitem__", "__ior__", "__iter__", "__len__", "__or__",
      "__ror__", "__setitem__"])]
  | "tuple" => [
    (builtin, ["__class_getitem__", "__getnewargs__", "count", "index"]),
    (wrapper, ["__add__", "__contains__", "__getitem__", "__iter__", "__len__",
      "__mul__", "__rmul__"])]
  | "str" => [
    (builtin, ["__getnewargs__", "capitalize", "casefold", "center", "count", "encode",
      "endswith", "expandtabs",
      "find", "format", "format_map", "index", "isalnum", "isalpha",
      "isascii", "isdecimal", "isdigit",
      "isidentifier", "islower", "isnumeric", "isprintable", "isspace", "istitle",
      "isupper", "join", "ljust",
      "lower", "lstrip", "maketrans", "partition", "removeprefix", "removesuffix",
      "replace", "rfind", "rindex",
      "rjust", "rpartition", "rsplit", "rstrip", "split", "splitlines", "startswith",
      "strip", "swapcase", "title", "upper", "zfill"]),
    (wrapper, ["__add__", "__contains__", "__getitem__", "__iter__", "__len__",
      "__mod__", "__mul__", "__rmod__", "__rmul__"])]
  | "method" => [
    ("dict", ["__builtins__", "__globals__", "__dict__"]),
    ("function", ["__func__"]), ("code", ["__code__"]),
    (record.label, ["__self__"]), (wrapper, ["__call__", "__get__"])]
  | "builtin_function_or_method" => [(record.label, ["__self__"]), (wrapper, ["__call__"])]
  | "method-wrapper" =>
    [(record.label, ["__self__"]), ("type", ["__objclass__"]), (wrapper, ["__call__"])]
  | "_DataclassParams" => [("method", ["__init__", "__repr__"])]
  | "type" => [
    ("function", ["__delattr__", "__eq__", "__hash__", "__init__", "__repr__", "__setattr__"]),
    (wrapper, ["__call__", "__or__", "__ror__"]),
    ("wrapper_descriptor",
      ["__ge__", "__getattribute__", "__gt__", "__le__", "__lt__", "__ne__", "__str__"]),
    ("method_descriptor",
      ["__dir__", "__format__", "__getstate__", "__reduce__", "__reduce_ex__", "__sizeof__"]),
    (builtin, ["__instancecheck__", "__prepare__", "__subclasscheck__", "__subclasses__", "mro"]),
    ("type", ["__base__"]), ("tuple", ["__bases__", "__mro__"]), ("dict", ["__dataclass_fields__"]),
    ("getset_descriptor", ["__weakref__"]), ("_DataclassParams", ["__dataclass_params__"]),
    ("mappingproxy", ["__dict__"])]
  | _ => []

def typeDescription? : String → Option String
  | "dict" => some <|
    "dict() -> new empty dictionary\ndict(mapping) -> new dictionary initialized from a mapping object's\n" ++
    "    (key, value) pairs\ndict(iterable) -> new dictionary initialized as if via:\n    d = \x7b\x7d\n" ++
    "    for k, v in iterable:\n        d[k] = v\n" ++
    "dict(**kwargs) -> new dictionary initialized with the name=value pairs\n" ++
    "    in the keyword argument list.  For example:  dict(one=1, two=2)"
  | "str" => some <|
    "str(object='') -> str\nstr(bytes_or_buffer[, encoding[, errors]]) -> str\n\n" ++
    "Create a new string object from the given object. If encoding or\n" ++
    "errors is specified, then the object must expose a data buffer\n" ++
    "that will be decoded using the given encoding and error handler.\n" ++
    "Otherwise, returns the result of object.__str__() (if defined)\nor repr(object).\n" ++
    "encoding defaults to sys.getdefaultencoding().\nerrors defaults to 'strict'."
  | "tuple" => some <|
    "Built-in immutable sequence.\n\nIf no argument is given, the constructor returns an empty tuple.\n" ++
    "If iterable is specified the tuple is initialized from iterable's items.\n\n" ++
    "If the argument is a tuple, the return value is the same object."
  | _ => none

def methodDescription? : String → Option String
  | "__dir__" => some "Default dir() implementation."
  | "__format__" => some "Default object formatter."
  | "__getstate__" => some "Helper for pickle."
  | "__init_subclass__" => some <|
    "This method is called when a class is subclassed.\n\n" ++
    "The default implementation does nothing. It may be\noverridden to extend subclasses.\n"
  | "__new__" => some "Create and return a new object.  See help(type) for accurate signature."
  | "__reduce__" => some "Helper for pickle."
  | "__reduce_ex__" => some "Helper for pickle."
  | "__sizeof__" => some "Size of object in memory, in bytes."
  | "__subclasshook__" => some <|
    "Abstract classes can override this to customize issubclass().\n\n" ++
    "This is invoked early on by abc.ABCMeta.__subclasscheck__().\n" ++
    "It should return True, False or NotImplemented.  If it returns\n" ++
    "NotImplemented, the normal algorithm is used.  Otherwise, it\n" ++
    "overrides the normal algorithm (and the outcome is cached).\n"
  | "__ge__" => some "Return self>=value."
  | "__getattribute__" => some "Return getattr(self, name)."
  | "__gt__" => some "Return self>value."
  | "__le__" => some "Return self<=value."
  | "__lt__" => some "Return self<value."
  | "__ne__" => some "Return self!=value."
  | "__str__" => some "Return str(self)."
  | _ => none

def signature? : String → Option String
  | "__format__" => some "($self, format_spec, /)"
  | "__getattribute__" => some "($self, name, /)"
  | "__new__" => some "($type, *args, **kwargs)"
  | "__reduce_ex__" => some "($self, protocol, /)"
  | "__init_subclass__" => none
  | "__subclasshook__" => none
  | owner =>
    if ["__ge__", "__gt__", "__le__", "__lt__", "__ne__"].contains owner then
      some "($self, value, /)"
    else some "($self, /)"

def inType? (record : RecordType) : String → Option LimitMember
  | "__name__" => some (ofText record.label)
  | "__qualname__" => some (ofText record.label)
  | "__doc__" => some (ofText record.description)
  | "__module__" => some (ofText record.home)
  | "__annotations__" => some (.plain (.object record.fieldTypes))
  | "__match_args__" => some (.special "tuple" record.fieldNames)
  | "__basicsize__" => some (.plain (.int 24))
  | "__dictoffset__" => some (.plain (.int (-48)))
  | "__flags__" => some (.plain (.int 546320))
  | "__itemsize__" => some (.plain (.int 0))
  | "__weakrefoffset__" => some (.plain (.int 16))
  | _ => none

def settings : List (String × Bool) :=
  [("init", true), ("repr", true), ("eq", true), ("order", false),
    ("unsafe_hash", false), ("frozen", true)]

def inSettings? (name : String) : Option LimitMember :=
  match name with
  | "__module__" => some (ofText "dataclasses")
  | "__slots__" => some (.special "tuple" (.texts (settings.map Prod.fst)))
  | _ =>
    (settings.find? fun setting => setting.1 == name).map fun setting => .plain (.bool setting.2)

def inMethod? (record : RecordType) (owner name : String) : Option LimitMember :=
  match name with
  | "__name__" => some (ofText owner)
  | "__qualname__" => some (ofText (record.label ++ "." ++ owner))
  | "__module__" => some (ofText record.home)
  | "__annotations__" =>
    some (.plain (.object
      (if owner = "__init__" then record.fieldTypes ++ [("return", .null)] else [])))
  | "__dict__" => if owner = "__repr__" then none else some (.plain (.object []))
  | "__closure__" =>
    if ["__delattr__", "__init__", "__repr__", "__setattr__"].contains owner then
      some (.special "tuple" .null)
    else none
  | "__defaults__" => if owner = "__init__" then some (.special "tuple" .null) else none
  | "__wrapped__" => if owner = "__repr__" then some (.special "function" .null) else none
  | _ => none

/-- What a method that everything has says; `holder` is what it is called after. -/
def inCommon? (holder owner name : String) : Option LimitMember :=
  match name with
  | "__name__" => some (ofText owner)
  | "__qualname__" => some (ofText (holder ++ "." ++ owner))
  | "__doc__" => (methodDescription? owner).map ofText
  | "__text_signature__" => (signature? owner).map ofText
  | "__self__" =>
    if ["__init_subclass__", "__new__", "__subclasshook__"].contains owner then
      some (.special "type" .null) else none
  | _ => none

/-- What the member `owner` of a record says under a name, if it can be shown. -/
def described? (record : RecordType) (typeName owner name : String) : Option LimitMember :=
  match typeName with
  | "type" => inType? record name
  | "_DataclassParams" => inSettings? name
  | "method" => inMethod? record owner name
  | "builtin_function_or_method" =>
    inCommon? (if owner = "__new__" then "object" else record.label) owner name
  | "method-wrapper" => inCommon? "object" owner name
  | _ =>
    match name with
    | "__doc__" => (typeDescription? typeName).map ofText
    | "__hash__" => if typeName = "dict" then some (.plain .null) else none
    | _ => none

/-- A member of the member `owner` of a record. -/
def within (record : RecordType) (typeName owner name : String) : LimitMember :=
  match described? record typeName owner name, typeIn? (ofType record typeName ++ common) name with
  | some member, _ => member
  | none, some found => .special found .null
  | none, none => .plain .null

end LimitMember

namespace Limits

def readName : Value → Except Failure String
  | .text name => .ok name
  | other => .error (.mishap (.notName other.typeName))

def label : String := "Limits"

def recordType (home : String) : RecordType :=
  { label := label, home := home, fields := standard.groups.map fun group =>
    ⟨group.1, group.2.label, "<factory>"⟩ }

def groupType (home category : String) (group : LimitGroup) : RecordType :=
  let initial := match standard.group? category with
    | none => []
    | some group => group.ceilings
  { label := group.label, home := home, fields := initial.map fun ceiling =>
    ⟨ceiling.1, "int", ceiling.2.display⟩ }

/-- What a name in a group stands for: a ceiling, or else a member of the record. -/
def groupEntry (home category name : String) (group : LimitGroup) : LimitMember :=
  match group.ceiling? name with
  | some content => .plain content
  | none => LimitMember.find (groupType home category group) (.object group.ceilings) name

/-- What a document names; an unknown category is not even asked for the name. -/
def entryFor (home : String) (category name : Value) (limits : Limits) :
    Except Failure LimitMember := do
  let key ← readName category
  match limits.group? key, Record.typeOf? key with
  | some group, _ => return groupEntry home key (← readName name) group
  | none, some typeName =>
    return LimitMember.within (recordType home) typeName key (← readName name)
  | none, none => return .plain .null

def ceilingFor (home : String) (category name : Value) (limits : Limits) :
    Except Failure Value := do
  return (← limits.entryFor home category name).shown

def checkFor (home : String) (category name value : Value) (limits : Limits) :
    Except Failure Unit := do
  match ← limits.entryFor home category name with
  | .plain content => checkAgainst category name value content
  | .special typeName _ => .error (.mishap (LimitMember.refusal .above value typeName))

def isWithinFor (home : String) (category name value : Value) (limits : Limits) :
    Except Failure Bool := do
  match ← limits.entryFor home category name with
  | .plain content => fits value content
  | .special typeName _ => .error (.mishap (LimitMember.refusal .atMost value typeName))

end Limits

/-- Checks a limit that the arguments name; `home` is where limits tables are defined. -/
def withinLimit (home : String) : FormulaHandler := fun arguments _ =>
  let named : Except Failure (Value × Value × Value) := do
    return (← arguments.need "category", ← arguments.need "name", ← arguments.need "value")
  match named with
  | .error failure => .fail failure
  | .ok (category, name, value) =>
    .limits fun limits => Stock.conclude
      ((limits.checkFor home category name value).map fun _ => .text "within")

end Interplay
