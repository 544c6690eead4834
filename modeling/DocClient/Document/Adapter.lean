import DocClient.Document.Record
/-!
Documents and their envelopes, the objects the server stores with `_id`, `_rev` and
`_deleted`. An `Adapter` handles one kind of document: a raw one is its own envelope, a typed
record keeps its marks beside its fields.
-/
namespace DocClient

/-- How documents of one kind map to envelopes. -/
inductive Adapter where
  /-- Raw documents: objects that are their own envelopes. -/
  | envelope
  /-- Typed records of one schema. -/
  | model (s : Schema)
  deriving DecidableEq

namespace Adapter

/-- The adapter's class name. -/
def className : Adapter → String
  | .envelope => "EnvelopeAdapter"
  | .model _ => "ModelAdapter"

/-- The name of the document type the adapter handles. -/
def typeName : Adapter → String
  | .envelope => "dict"
  | .model s => s.name

/-- The adapter for a type name: raw for null or `dict`, typed for a schema name. -/
def forType (name : Option String) : Except Error Adapter :=
  match name with
  | none | some "dict" => .ok .envelope
  | some n =>
    match Schema.ofName? n with
    | some s => .ok (.model s)
    | none => .error (.type s!"Unsupported document type <class '{n}'>: use dict or a Document subclass")

/-- The adapter matching a document value. -/
def forValue : Value → Except Error Adapter
  | .record s .. => .ok (.model s)
  | .dict _ => .ok .envelope
  | v => .error (.type s!"Unsupported document value of type {v.typeName}")

/-- The failure of storing under a text key in a value that is not an object. -/
def itemStoreError (v : Value) : Error :=
  match v with
  | .list _ => .type "list indices must be integers or slices, not str"
  | _ => .type s!"'{v.typeName}' object does not support item assignment"

/-- A mark under a typed adapter, as lookup finds it. -/
def modelMark (m : Mark) (v : Value) (members : Members) : Except Error Value :=
  match v with
  | .record s fs i r d ss =>
    Record.readMark s fs ss m (match m with
      | .id => i
      | .rev => r
      | .deleted => d)
  | .updateMode u =>
    match tableEntry (members.attributes u) m.attribute with
    | some x => .ok x
    | none => .error (.attribute v.typeName m.attribute)
  | _ => .error (.attribute v.typeName m.attribute)

/-- Set a mark under a typed adapter, where lookup would find it. -/
def setModelMark (m : Mark) (v x : Value) (members : Members) : Except Error (Value × Members) :=
  match v with
  | .record s fs i r d ss => do
    Record.assignable fs m.attribute
    match Record.slot? ss "__pydantic_private__" with
    | some p =>
      let p' ← Record.storeItem p m.attribute x
      pure (.record s fs i r d (tablePut ss "__pydantic_private__" p'), members)
    | none =>
      let w : Value := match m with
        | .id => .record s fs x r d ss
        | .rev => .record s fs i x d ss
        | .deleted => .record s fs i r x ss
      pure (w, members)
  | .updateMode u => .ok (v, members.put u m.attribute x)
  | _ => .error (.attribute v.typeName m.attribute)

/-- Read a mark: the truthy value under its key in an object, or the typed document's own. -/
def getMark (a : Adapter) (m : Mark) (v : Value) (members : Members := {}) : Except Error Value :=
  match a with
  | .envelope =>
    match v with
    | .dict es => .ok (let x := Value.getD es m.key; if x.truthy then x else .null)
    | _ => .error (.attribute v.typeName "get")
  | .model _ => modelMark m v members

/-- Write a mark: store it under its key in an object, or set the typed document's own. -/
def setMarkIn (a : Adapter) (m : Mark) (v x : Value) (members : Members) :
    Except Error (Value × Members) :=
  match a with
  | .envelope =>
    match v with
    | .dict es => .ok (.dict (Value.put es m.key x), members)
    | _ => .error (itemStoreError v)
  | .model _ => setModelMark m v x members

/-- Write a mark on a document that no member attributes concern. -/
def setMark (a : Adapter) (m : Mark) (v x : Value) : Except Error Value :=
  (a.setMarkIn m v x {}).map (·.1)

/-- The document's id: the truthy `_id` of an object, or a record's id as it is. -/
def getId (a : Adapter) (v : Value) (members : Members := {}) : Except Error Value :=
  a.getMark .id v members

/-- The document's revision. -/
def getRev (a : Adapter) (v : Value) (members : Members := {}) : Except Error Value :=
  a.getMark .rev v members

/-- Set the id. -/
def setId (a : Adapter) (v x : Value) : Except Error Value := a.setMark .id v x

/-- Set the revision. -/
def setRev (a : Adapter) (v x : Value) : Except Error Value := a.setMark .rev v x

/-- Whether the document is marked deleted. -/
def isDeleted (a : Adapter) (v : Value) (members : Members := {}) : Except Error Value :=
  match a with
  | .envelope =>
    match v with
    | .dict es => .ok (.bool (Value.getD es "_deleted").truthy)
    | _ => .error (.attribute v.typeName "get")
  | .model _ => modelMark .deleted v members

/-- Mark or unmark deletion. -/
def setDeletedIn (a : Adapter) (v flag : Value) (members : Members) :
    Except Error (Value × Members) :=
  match a with
  | .envelope =>
    match v with
    | .dict es =>
      if flag.truthy then .ok (.dict (Value.put es "_deleted" (.bool true)), members)
      else .ok (.dict (Value.erase (.str "_deleted") es), members)
    | _ =>
      if flag.truthy then .error (itemStoreError v)
      else
        match v with
        | .list _ => .error (.type "pop expected at most 1 argument, got 2")
        | .set _ => .error (.type "set.pop() takes no arguments (2 given)")
        | _ => .error (.attribute v.typeName "pop")
  | .model _ => setModelMark .deleted v flag members

/-- Mark or unmark deletion of a document that no member attributes concern. -/
def setDeleted (a : Adapter) (v flag : Value) : Except Error Value :=
  (a.setDeletedIn v flag {}).map (·.1)

/-- The envelope of a document: a copy of an object, or a record's marks and fields. -/
def toEnvelope (a : Adapter) (v : Value) (members : Members := {}) :
    Except Error (List (Value × Value)) :=
  match a with
  | .envelope =>
    match v with
    | .dict es => .ok es
    | _ => .error (.type s!"Expected a dict document, got {v.typeName}")
  | .model _ => do
    let i ← modelMark .id v members
    let r ← modelMark .rev v members
    let d ← modelMark .deleted v members
    let fields ← match v with
      | .record s fs .. => Record.dump s fs
      | _ => .error (.attribute v.typeName "model_dump")
    pure ((if i.truthy then [(.str "_id", i)] else []) ++
      (if r.truthy then [(.str "_rev", r)] else []) ++
      (if d.truthy then [(.str "_deleted", .bool true)] else []) ++ fields)

/-- Whether an envelope key is reserved: it starts with an underscore. -/
def reservedKey : Value → Except Error Bool
  | .str k => .ok (k.startsWith "_")
  | v => .error (.attribute v.typeName "startswith")

/-- The domain entries of an envelope: those whose key is not reserved. -/
def domainEntries : List (Value × Value) → Except Error (List (Value × Value))
  | [] => .ok []
  | (k, x) :: rest => do
    let r ← reservedKey k
    let tail ← domainEntries rest
    pure (if r then tail else (k, x) :: tail)

/-- The document an envelope holds; a record validates its domain entries. -/
def fromEnvelope (a : Adapter) (v : Value) : Except Error Value :=
  match v with
  | .dict es =>
    match a with
    | .envelope => .ok v
    | .model s => do
      let docId := Value.getD es "_id"
      let data ← domainEntries es
      match s.validate data with
      | .ok fs =>
        pure (.record s fs docId (Value.getD es "_rev") (.bool (Value.getD es "_deleted").truthy) [])
      | .error inv => throw (Error.decodeDoc s!"Cannot decode {s.name}: {inv.text}" docId)
  | _ => .error (Error.decodeDoc s!"Expected a JSON object, got {v.typeName}")

/-- The id of a document when it is a text or an update mode, for reporting. -/
def textId (a : Adapter) (v : Value) : Value :=
  match a.getId v with
  | .ok (.str s) => .str s
  | .ok (.updateMode m) => .updateMode m
  | _ => .null

end Adapter

end DocClient
