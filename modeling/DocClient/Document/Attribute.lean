import DocClient.Document.Adapter
import DocClient.Value.Items
/-!
Setting an attribute of a value by name. An object stores under any key; a value with no
table of its own sets nothing; a record routes a name to a mark, a slot, its table or a
checked field.
-/
namespace DocClient

namespace Attribute

/-- The attributes every type provides. -/
def ofObject : List String :=
  ["__class__", "__delattr__", "__dir__", "__doc__", "__eq__", "__format__", "__ge__",
   "__getattribute__", "__getstate__", "__gt__", "__hash__", "__init__", "__init_subclass__",
   "__le__", "__lt__", "__ne__", "__new__", "__reduce__", "__reduce_ex__", "__repr__",
   "__setattr__", "__sizeof__", "__str__", "__subclasshook__"]

/-- The attributes the text type adds. -/
def ofText : List String :=
  ["__add__", "__contains__", "__getitem__", "__getnewargs__", "__iter__", "__len__", "__mod__",
   "__mul__", "__rmod__", "__rmul__", "capitalize", "casefold", "center", "count", "encode",
   "endswith", "expandtabs", "find", "format", "format_map", "index", "isalnum", "isalpha",
   "isascii", "isdecimal", "isdigit", "isidentifier", "islower", "isnumeric", "isprintable",
   "isspace", "istitle", "isupper", "join", "ljust", "lower", "lstrip", "maketrans", "partition",
   "removeprefix", "removesuffix", "replace", "rfind", "rindex", "rjust", "rpartition", "rsplit",
   "rstrip", "split", "splitlines", "startswith", "strip", "swapcase", "title", "translate",
   "upper", "zfill"]

/-- The attributes the set type adds. -/
def ofSet : List String :=
  ["__and__", "__class_getitem__", "__contains__", "__iand__", "__ior__", "__isub__", "__iter__",
   "__ixor__", "__len__", "__or__", "__rand__", "__ror__", "__rsub__", "__rxor__", "__sub__",
   "__xor__", "add", "clear", "copy", "difference", "difference_update", "discard",
   "intersection", "intersection_update", "isdisjoint", "issubset", "issuperset", "pop",
   "remove", "symmetric_difference", "symmetric_difference_update", "union", "update"]

/-- The attributes the integer type adds; truth values have the same. -/
def ofInteger : List String :=
  ["__abs__", "__add__", "__and__", "__bool__", "__ceil__", "__divmod__", "__float__",
   "__floor__", "__floordiv__", "__getnewargs__", "__index__", "__int__", "__invert__",
   "__lshift__", "__mod__", "__mul__", "__neg__", "__or__", "__pos__", "__pow__", "__radd__",
   "__rand__", "__rdivmod__", "__rfloordiv__", "__rlshift__", "__rmod__", "__rmul__", "__ror__",
   "__round__", "__rpow__", "__rrshift__", "__rshift__", "__rsub__", "__rtruediv__", "__rxor__",
   "__sub__", "__truediv__", "__trunc__", "__xor__", "as_integer_ratio", "bit_count",
   "bit_length", "conjugate", "denominator", "from_bytes", "imag", "numerator", "real",
   "to_bytes"]

/-- The attributes the floating-point type adds. -/
def ofFloat : List String :=
  ["__abs__", "__add__", "__bool__", "__ceil__", "__divmod__", "__float__", "__floor__",
   "__floordiv__", "__getformat__", "__getnewargs__", "__int__", "__mod__", "__mul__", "__neg__",
   "__pos__", "__pow__", "__radd__", "__rdivmod__", "__rfloordiv__", "__rmod__", "__rmul__",
   "__round__", "__rpow__", "__rsub__", "__rtruediv__", "__sub__", "__truediv__", "__trunc__",
   "as_integer_ratio", "conjugate", "fromhex", "hex", "imag", "is_integer", "real"]

/-- The attributes the list type adds. -/
def ofList : List String :=
  ["__add__", "__class_getitem__", "__contains__", "__delitem__", "__getitem__", "__iadd__",
   "__imul__", "__iter__", "__len__", "__mul__", "__reversed__", "__rmul__", "__setitem__",
   "append", "clear", "copy", "count", "extend", "index", "insert", "pop", "remove", "reverse",
   "sort"]

/-- The attributes the tuple type adds. -/
def ofTuple : List String :=
  ["__add__", "__class_getitem__", "__contains__", "__getitem__", "__getnewargs__", "__iter__",
   "__len__", "__mul__", "__rmul__", "count", "index"]

/-- The attributes the type of a value without a table provides. -/
def ofType : Value → List String
  | .null => ofObject ++ ["__bool__"]
  | .bool _ | .int _ => ofObject ++ ofInteger
  | .float _ => ofObject ++ ofFloat
  | .str _ => ofObject ++ ofText
  | .list _ => ofObject ++ ofList
  | .tuple _ => ofObject ++ ofTuple
  | .set _ => ofObject ++ ofSet
  | _ => ofObject

/-- The type that fixes an attribute of a number for good. -/
def fixedBy? (v : Value) (name : String) : Option String :=
  match v with
  | .bool _ | .int _ =>
    if ["real", "imag", "numerator", "denominator"].contains name then some "int" else none
  | .float _ => if ["real", "imag"].contains name then some "float" else none
  | _ => none

/-- The attributes of a record that can be read but not set. -/
def recordViews : List String :=
  ["couch_id", "couch_rev", "couch_deleted", "model_extra", "model_fields_set", "__fields__",
   "__fields_set__"]

/-- The slots every record has beside its table. -/
def recordSlots : List String :=
  ["__pydantic_private__", "__pydantic_extra__", "__pydantic_fields_set__"]

/-- The failure of setting `__class__` to a value, which is never a class. -/
def classError (x : Value) : Error :=
  .type (Text.ofString s!"__class__ must be set to a class, not '{x.typeName}' object")

/-- The table a value makes when it replaces a whole table: only an object does. -/
def tableOf (x : Value) : Except Error (List (String × Value)) :=
  match x with
  | .dict es => .ok (es.map fun e => (Record.keyName e.1, e.2))
  | _ => .error (.type (Text.ofString s!"__dict__ must be set to a dictionary, not a '{x.typeName}'"))

/-- The name of an attribute: a text, or the text of an update mode. -/
def nameOf (name : Value) : Except Error String :=
  match name with
  | .str t => .ok t.lossy
  | .updateMode m => .ok m.text
  | v => .error (.type (Text.ofString s!"attribute name must be string, not '{v.typeName}'"))

/-- The mark a private name holds, if it is one. -/
def markNamed? (name : String) : Option Mark :=
  [Mark.id, Mark.rev, Mark.deleted].find? (·.attribute = name)

/-- Set an attribute of a record. -/
def setOnRecord (s : Schema) (fs : List (String × Value)) (i r d : Value)
    (ss : List (String × Value)) (name : String) (x : Value) (members : Members) :
    Except Error (Value × Members) := do
  Record.assignable fs name
  if name = "model_config" then throw (.classAttribute s.name name)
  if name.startsWith "_" then
    if let some m := markNamed? name then
      Adapter.setModelMark m (.record s fs i r d ss) x members
    else if name = "__class__" then throw (classError x)
    else if name = "__dict__" then
      let t ← tableOf x
      pure (.record s t i r d ss, members)
    else if name = "__weakref__" then throw (.notWritable "Document" name)
    else if recordViews.contains name then throw (.readOnly s.name name)
    else if recordSlots.contains name then pure (.record s fs i r d (tablePut ss name x), members)
    else pure (.record s (tablePut fs name x) i r d ss, members)
  else if recordViews.contains name then throw (.readOnly s.name name)
  else
    if let some checker := tableEntry fs "__pydantic_validator__" then
      throw (.attribute checker.typeName "validate_assignment")
    let (fs', ss') ← Record.assignField s fs ss name x
    pure (.record s fs' i r d ss', members)

/-- Set an attribute of a member of the update-mode enumeration. -/
def setOnMember (m : UpdateMode) (name : String) (x : Value) (members : Members) :
    Except Error (Value × Members) := do
  if name = "__class__" then throw (classError x)
  if name = "name" || name = "value" then throw (.memberProperty name)
  if name = "__weakref__" then throw (.notWritable "UpdateView" name)
  if name = "__dict__" then
    let t ← tableOf x
    return (.updateMode m, members.replace m t)
  pure (.updateMode m, members.put m name x)

end Attribute

/-- Set an attribute of a value, or store under a key of an object. -/
def Value.setAttribute (v : Value) (name x : Value) (members : Members) :
    Except Error (Value × Members) :=
  match v with
  | .dict es => do
    Value.checkKey name
    pure (.dict (Value.insert name x es), members)
  | _ => do
    let n ← Attribute.nameOf name
    match v with
    | .record s fs i r d ss => Attribute.setOnRecord s fs i r d ss n x members
    | .updateMode m => Attribute.setOnMember m n x members
    | _ =>
      if n = "__class__" then throw (Attribute.classError x)
      match Attribute.fixedBy? v n with
      | some owner => throw (.notWritable owner n)
      | none =>
        if (Attribute.ofType v).contains n then throw (.typeAttribute v.typeName n)
        else throw (.attribute v.typeName n)

end DocClient
