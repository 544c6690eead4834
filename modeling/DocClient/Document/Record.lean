import DocClient.Document.Schema
/-!
The own state of records and enumeration members: a record's table, its three marks and
its slots. Lookup walks the table before the type, so a table entry can shadow the type's
machinery or a mark.
-/
namespace DocClient

/-- The three marks a record carries. -/
inductive Mark where
  | id
  | rev
  | deleted
  deriving DecidableEq

/-- The envelope key of a mark. -/
def Mark.key : Mark → String
  | .id => "_id"
  | .rev => "_rev"
  | .deleted => "_deleted"

/-- The attribute holding a mark on a record. -/
def Mark.attribute : Mark → String
  | .id => "_couch_id"
  | .rev => "_couch_rev"
  | .deleted => "_couch_deleted"

/-- The entry of a table under a name. -/
def tableEntry (fs : List (String × Value)) (name : String) : Option Value :=
  (fs.find? (·.1 = name)).map (·.2)

/-- Store an entry in a table: a name already present keeps its place, a new one goes last. -/
def tablePut (fs : List (String × Value)) (name : String) (x : Value) : List (String × Value) :=
  if fs.any (·.1 = name) then fs.map fun e => if e.1 = name then (name, x) else e
  else fs ++ [(name, x)]

/-- Attributes given to members of the update-mode enumeration, by member. -/
structure Members where
  table : List (UpdateMode × List (String × Value)) := []

namespace Members

/-- The attributes given to a member. -/
def attributes (ms : Members) (m : UpdateMode) : List (String × Value) :=
  ((ms.table.find? (·.1 = m)).map (·.2)).getD []

/-- Replace the attributes of a member. -/
def replace (ms : Members) (m : UpdateMode) (attrs : List (String × Value)) : Members :=
  ⟨(ms.table.filter (·.1 ≠ m)) ++ [(m, attrs)]⟩

/-- Give a member one attribute. -/
def put (ms : Members) (m : UpdateMode) (name : String) (x : Value) : Members :=
  ms.replace m (tablePut (ms.attributes m) name x)

end Members

/-- Whether a list of points holds another as a contiguous part. -/
def holdsPart (part : List Point) : List Point → Bool
  | [] => part.isEmpty
  | p :: rest => part.isPrefixOf (p :: rest) || holdsPart part rest

/-- Whether a value, searched as a collection, holds a name. -/
def Value.holdsName (t : Value) (name : String) : Except Error Bool :=
  match t with
  | .dict es => .ok (es.any fun e => e.1.eq (.str name))
  | .list xs | .tuple xs | .set xs => .ok (xs.any fun x => x.eq (.str name))
  | .str s => .ok (holdsPart (Text.ofString name).points s.points)
  | .updateMode m => .ok (holdsPart (Text.ofString name).points (Text.ofString m.text).points)
  | .record .. => .ok false
  | v => .error (.type s!"argument of type '{v.typeName}' is not iterable")

namespace Record

/-- The value that replaced one of a record's slots, if one did. -/
def slot? (ss : List (String × Value)) (name : String) : Option Value := tableEntry ss name

/-- The name a key of an object gives an attribute. -/
def keyName (k : Value) : String := k.text.lossy

/-- An item named by a text, read out of a value as subscription reads it. -/
def itemNamed (v : Value) (name : String) : Except Error (Option Value) :=
  match v with
  | .dict es => .ok (Value.lookup (.str name) es)
  | .list _ => .error (.type "list indices must be integers or slices, not str")
  | .tuple _ => .error (.type "tuple indices must be integers or slices, not str")
  | .str _ | .updateMode _ => .error (.type "string indices must be integers, not 'str'")
  | _ => .error (.type s!"'{v.typeName}' object is not subscriptable")

/-- A mark read from the private store, or from the value that replaced it. -/
def storedMark (typeName : String) (ss : List (String × Value)) (m : Mark) (stored : Value) :
    Except Error Value :=
  match slot? ss "__pydantic_private__" with
  | none => .ok stored
  | some p =>
    match itemNamed p m.attribute with
    | .error e => .error e
    | .ok (some x) => .ok x
    | .ok none => .error (.attribute typeName m.attribute)

/-- A mark looked up among the extras; absent or empty extras hold nothing. -/
def extraMark (typeName : String) (ss : List (String × Value)) (m : Mark) : Except Error Value :=
  match slot? ss "__pydantic_extra__" with
  | some x =>
    if !x.truthy then .error (.attribute typeName m.attribute)
    else
      match itemNamed x m.attribute with
      | .error e => .error e
      | .ok (some y) => .ok y
      | .ok none => .error (.attribute typeName m.attribute)
  | none => .error (.attribute typeName m.attribute)

/-- A mark found through a table of private names standing in for the record's own. -/
def privateMark (typeName : String) (ss : List (String × Value)) (t : Value) (m : Mark)
    (stored : Value) : Except Error Value :=
  match t.holdsName m.attribute with
  | .error e => .error e
  | .ok false => extraMark typeName ss m
  | .ok true =>
    match itemNamed t m.attribute with
    | .error e => .error e
    | .ok _ => storedMark typeName ss m stored

/-- A record's mark as lookup finds it: in its table, else in the private store. -/
def readMark (s : Schema) (fs : List (String × Value)) (ss : List (String × Value)) (m : Mark)
    (stored : Value) : Except Error Value :=
  match tableEntry fs m.attribute with
  | some x => .ok x
  | none =>
    match tableEntry fs "__private_attributes__" with
    | none => storedMark s.name ss m stored
    | some t => privateMark s.name ss t m stored

/-- Store an item in the value that replaced a private store. -/
def storeItem (p : Value) (name : String) (x : Value) : Except Error Value :=
  match p with
  | .null => .ok (.dict [(.str name, x)])
  | .dict es => .ok (.dict (Value.insert (.str name) x es))
  | .list _ => .error (.type "list indices must be integers or slices, not str")
  | v => .error (.type s!"'{v.typeName}' object does not support item assignment")

/-- The dump of a record, which fails when its table stands in for the dumper. -/
def dump (s : Schema) (fs : List (String × Value)) : Except Error (List (Value × Value)) :=
  match tableEntry fs "__pydantic_serializer__" with
  | some x => .error (.attribute x.typeName "to_python")
  | none => .ok (s.dump fs)

/-- Whether a record can take an assignment to a name. -/
def assignable (fs : List (String × Value)) (name : String) : Except Error Unit :=
  match tableEntry fs "__pydantic_setattr_handlers__" with
  | none => .ok ()
  | some (.dict es) =>
    match Value.lookup (.str name) es with
    | none | some .null => .ok ()
    | some h => .error (.type s!"'{h.typeName}' object is not callable")
  | some x => .error (.attribute x.typeName "get")

/-- Assign a field as the field checker does: the table and the slots after it. -/
def assignField (s : Schema) (fs ss : List (String × Value)) (name : String) (x : Value) :
    Except Error (List (String × Value) × List (String × Value)) := do
  let merged := match slot? ss "__pydantic_extra__" with
    | some (.dict es) => es.foldl (fun acc e => tablePut acc (keyName e.1) e.2) fs
    | _ => fs
  let fs' ← (s.assign merged name x).mapError .invalid
  match slot? ss "__pydantic_fields_set__" with
  | none | some (.set _) => pure ()
  | some v => throw (.type s!"'{v.typeName}' object cannot be converted to 'PySet'")
  pure (fs', ss.filter (·.1 ≠ "__pydantic_extra__"))

theorem readMark_plain (s : Schema) (fs ss : List (String × Value)) (m : Mark) (stored : Value)
    (h1 : tableEntry fs m.attribute = none) (h2 : tableEntry fs "__private_attributes__" = none)
    (h3 : slot? ss "__pydantic_private__" = none) :
    readMark s fs ss m stored = .ok stored := by
  simp [readMark, storedMark, h1, h2, h3]

end Record

end DocClient
