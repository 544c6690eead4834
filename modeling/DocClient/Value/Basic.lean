import DocClient.Binary64
import DocClient.Text.Basic
/-!
Dynamic values of documents and queries: JSON values, tuples, sets, the view-update mode
and typed records. Objects keep insertion order; `Value.eq` is the documents' equality.
-/
namespace DocClient

/-- What a field of a typed document holds. -/
inductive FieldType where
  | text
  | integer
  /-- A number, or null. -/
  | optionalNumber
  | textList
  | object
  deriving DecidableEq, Repr

/-- A field's default: a JSON scalar, or an empty list or object. -/
inductive Literal where
  | null
  | int (i : Int)
  | str (s : String)
  | emptyList
  | emptyObject
  deriving DecidableEq, Repr

/-- Whether a default is in the validated form of a field type. -/
def FieldType.admits : FieldType → Literal → Bool
  | .text, .str _ => true
  | .integer, .int _ => true
  | .optionalNumber, .null => true
  | .textList, .emptyList => true
  | .object, .emptyObject => true
  | _, _ => false

/-- A field of a typed document: name, key, type and perhaps a default. -/
structure Field where
  name : String
  key : String
  type : FieldType
  default : Option Literal
  deriving DecidableEq, Repr

/-- A typed document class whose fields have distinct, unreserved names and keys. -/
structure Schema where
  name : String
  fields : List Field
  names_nodup : (fields.map (·.name)).Nodup
  keys_nodup : (fields.map (·.key)).Nodup
  name_not_reserved : ∀ f ∈ fields, (Text.ofString f.name).startsWith "_" = false
  key_not_reserved : ∀ f ∈ fields, (Text.ofString f.key).startsWith "_" = false
  default_admitted : ∀ f ∈ fields, f.default.all f.type.admits = true

instance : DecidableEq Schema := fun a b =>
  if h : a.name = b.name ∧ a.fields = b.fields then
    isTrue (by
      cases a
      cases b
      obtain ⟨rfl, rfl⟩ := h
      rfl)
  else isFalse (by
    rintro rfl
    exact h ⟨rfl, rfl⟩)

/-- The names of a schema's fields, in declaration order. -/
def Schema.fieldNames (s : Schema) : List String := s.fields.map (·.name)

/-- How a view request asks the server to bring its index up to date. -/
inductive UpdateMode where
  | always
  | never
  | lazy
  deriving DecidableEq, Repr, Inhabited

/-- The wire text of an update mode. -/
def UpdateMode.text : UpdateMode → String
  | .always => "true"
  | .never => "false"
  | .lazy => "lazy"

/-- The member name of an update mode. -/
def UpdateMode.member : UpdateMode → String
  | .always => "TRUE"
  | .never => "FALSE"
  | .lazy => "LAZY"

/-- The update mode a wire text names. -/
def UpdateMode.ofText? : String → Option UpdateMode
  | "true" => some .always
  | "false" => some .never
  | "lazy" => some .lazy
  | _ => none

/-- A dynamic value. -/
inductive Value where
  | null
  | bool (b : Bool)
  | int (i : Int)
  | float (x : Binary64)
  | str (s : Text)
  | list (xs : List Value)
  | tuple (xs : List Value)
  /-- A set: distinct elements, in the order they were first added. -/
  | set (xs : List Value)
  /-- An object: entries in insertion order, keys distinct. -/
  | dict (entries : List (Value × Value))
  /-- A typed record: schema, table of attributes, private marks, and replaced slots by name. -/
  | record (schema : Schema) (fields : List (String × Value)) (id rev deleted : Value)
      (slots : List (String × Value))
  | updateMode (m : UpdateMode)
  deriving Inhabited

/-- The value a default stands for. -/
def Literal.toValue : Literal → Value
  | .null => .null
  | .int i => .int i
  | .str s => .str (Text.ofString s)
  | .emptyList => .list []
  | .emptyObject => .dict []

namespace Value

/-- The name of a value's type. -/
def typeName : Value → String
  | .null => "NoneType"
  | .bool _ => "bool"
  | .int _ => "int"
  | .float _ => "float"
  | .str _ => "str"
  | .list _ => "list"
  | .tuple _ => "tuple"
  | .set _ => "set"
  | .dict _ => "dict"
  | .record s .. => s.name
  | .updateMode _ => "UpdateView"

/-- Truth of a value: empty containers, zeros, the empty text, null and false are false. -/
def truthy : Value → Bool
  | .null => false
  | .bool b => b
  | .int i => i != 0
  | .float x => !x.isZero
  | .str s => !s.isEmpty
  | .list xs => !xs.isEmpty
  | .tuple xs => !xs.isEmpty
  | .set xs => !xs.isEmpty
  | .dict es => !es.isEmpty
  | .record .. => true
  | .updateMode _ => true

/-- The numeric view of a value: booleans and integers as integers. -/
def asInt? : Value → Option Int
  | .bool b => some (if b then 1 else 0)
  | .int i => some i
  | _ => none

/-- The text view of a value: a text, or the wire text of an update mode. -/
def asText? : Value → Option Text
  | .str s => some s
  | .updateMode m => some (Text.ofString m.text)
  | _ => none

/-- Equality of two numbers or two texts; `none` when either is neither. -/
def scalarEq? (x y : Value) : Option Bool :=
  match x, y with
  | .float a, .float b => some (Binary64.numEq a b)
  | .float a, _ => y.asInt?.map fun j => a.isFinite && Binary64.compareInt j a == .eq
  | _, .float b => x.asInt?.map fun i => b.isFinite && Binary64.compareInt i b == .eq
  | _, _ =>
    match x.asInt?, y.asInt? with
    | some i, some j => some (i == j)
    | _, _ =>
      match x.asText?, y.asText? with
      | some s, some t => some (s == t)
      | _, _ => none

mutual

/-- Equality of keys: scalars by value, tuples element by element. -/
def keyEq : Value → Value → Bool
  | .tuple xs, .tuple ys => keyEqList xs ys
  | .null, .null => true
  | x, y => (scalarEq? x y).getD false

def keyEqList : List Value → List Value → Bool
  | [], [] => true
  | x :: xs, y :: ys => keyEq x y && keyEqList xs ys
  | _, _ => false

end

/-- The value stored under a key. -/
def lookup (k : Value) : List (Value × Value) → Option Value
  | [] => none
  | (k', v) :: rest => if keyEq k k' then some v else lookup k rest

/-- Whether a key is present. -/
def hasKey (k : Value) (es : List (Value × Value)) : Bool := (lookup k es).isSome

/-- Store a value under a key, a new key last. -/
def insert (k v : Value) : List (Value × Value) → List (Value × Value)
  | [] => [(k, v)]
  | (k', v') :: rest => if keyEq k k' then (k', v) :: rest else (k', v') :: insert k v rest

/-- Remove a key. -/
def erase (k : Value) : List (Value × Value) → List (Value × Value)
  | [] => []
  | (k', v') :: rest => if keyEq k k' then rest else (k', v') :: erase k rest

/-- The value under a text key. -/
def get? (es : List (Value × Value)) (k : String) : Option Value := lookup (.str (Text.ofString k)) es

/-- The value under a text key, or null. -/
def getD (es : List (Value × Value)) (k : String) : Value := (get? es k).getD .null

/-- Store under a text key. -/
def put (es : List (Value × Value)) (k : String) (v : Value) : List (Value × Value) :=
  insert (.str (Text.ofString k)) v es

/-- Merge entries in order, as repeated stores. -/
def update (es more : List (Value × Value)) : List (Value × Value) :=
  more.foldl (fun acc e => insert e.1 e.2 acc) es

mutual

/-- Value equality. -/
def eq : Value → Value → Bool
  | .list xs, .list ys => eqList xs ys
  | .tuple xs, .tuple ys => eqList xs ys
  | .set xs, .set ys => xs.length == ys.length && xs.all fun x => ys.any (keyEq x)
  | .dict xs, .dict ys => xs.length == ys.length && eqEntries xs ys
  | .record s fs i r d ss, .record s' fs' i' r' d' ss' =>
    s == s' && eqFields fs fs' && eq i i' && eq r r' && eq d d' && eqFields ss ss'
  | .null, .null => true
  | x, y => (scalarEq? x y).getD false

def eqList : List Value → List Value → Bool
  | [], [] => true
  | x :: xs, y :: ys => eq x y && eqList xs ys
  | _, _ => false

/-- Every entry of the first object has an equal value under its key in the second. -/
def eqEntries : List (Value × Value) → List (Value × Value) → Bool
  | [], _ => true
  | (k, v) :: rest, ys =>
    match lookup k ys with
    | some w => eq v w && eqEntries rest ys
    | none => false

def eqFields : List (String × Value) → List (String × Value) → Bool
  | [], [] => true
  | (n, v) :: rest, (n', v') :: rest' => n == n' && eq v v' && eqFields rest rest'
  | _, _ => false

end

mutual

/-- Sameness of structure: the same kinds, numbers bit for bit, entries in order. -/
def same : Value → Value → Bool
  | .null, .null => true
  | .bool a, .bool b => a == b
  | .int a, .int b => a == b
  | .float a, .float b => a == b
  | .str a, .str b => a == b
  | .list xs, .list ys => sameList xs ys
  | .tuple xs, .tuple ys => sameList xs ys
  | .set xs, .set ys => sameList xs ys
  | .dict xs, .dict ys => sameEntries xs ys
  | .record s fs i r d ss, .record s' fs' i' r' d' ss' =>
    s == s' && sameFields fs fs' && same i i' && same r r' && same d d' && sameFields ss ss'
  | .updateMode a, .updateMode b => a == b
  | _, _ => false

def sameList : List Value → List Value → Bool
  | [], [] => true
  | x :: xs, y :: ys => same x y && sameList xs ys
  | _, _ => false

def sameEntries : List (Value × Value) → List (Value × Value) → Bool
  | [], [] => true
  | (k, v) :: rest, (k', v') :: rest' => same k k' && same v v' && sameEntries rest rest'
  | _, _ => false

def sameFields : List (String × Value) → List (String × Value) → Bool
  | [], [] => true
  | (n, v) :: rest, (n', v') :: rest' => n == n' && same v v' && sameFields rest rest'
  | _, _ => false

end

mutual

/-- Sameness of structure is equality. -/
theorem same_iff_eq : ∀ a b : Value, same a b = true ↔ a = b
  | .null, b => by cases b <;> simp [same]
  | .bool x, b => by cases b <;> simp [same]
  | .int x, b => by cases b <;> simp [same]
  | .float x, b => by cases b <;> simp [same]
  | .str x, b => by cases b <;> simp [same]
  | .list xs, b => by cases b <;> simp [same, sameList_iff_eq xs]
  | .tuple xs, b => by cases b <;> simp [same, sameList_iff_eq xs]
  | .set xs, b => by cases b <;> simp [same, sameList_iff_eq xs]
  | .dict xs, b => by cases b <;> simp [same, sameEntries_iff_eq xs]
  | .record s fs i r d ss, b => by
    cases b <;> simp [same, sameFields_iff_eq fs, sameFields_iff_eq ss, same_iff_eq i, same_iff_eq r,
      same_iff_eq d, and_assoc]
  | .updateMode m, b => by cases b <;> simp [same]

theorem sameList_iff_eq : ∀ xs ys : List Value, sameList xs ys = true ↔ xs = ys
  | [], ys => by cases ys <;> simp [sameList]
  | x :: xs, ys => by cases ys <;> simp [sameList, same_iff_eq x, sameList_iff_eq xs]

theorem sameEntries_iff_eq : ∀ xs ys : List (Value × Value), sameEntries xs ys = true ↔ xs = ys
  | [], ys => by cases ys <;> simp [sameEntries]
  | _ :: _, [] => by simp [sameEntries]
  | (k, v) :: xs, (k', v') :: ys => by
    simp [sameEntries, same_iff_eq k, same_iff_eq v, sameEntries_iff_eq xs, and_assoc]

theorem sameFields_iff_eq : ∀ xs ys : List (String × Value), sameFields xs ys = true ↔ xs = ys
  | [], ys => by cases ys <;> simp [sameFields]
  | _ :: _, [] => by simp [sameFields]
  | (n, v) :: xs, (n', v') :: ys => by
    simp [sameFields, same_iff_eq v, sameFields_iff_eq xs, and_assoc]

end

/-- Equality of the data itself; the equality of documents is `Value.eq`. -/
instance : DecidableEq Value := fun a b => decidable_of_iff _ (same_iff_eq a b)

/-- A list of texts. -/
def ofStrings (xs : List String) : Value := .list (xs.map fun x => .str (Text.ofString x))

/-- An object with text keys. -/
def obj (es : List (String × Value)) : Value := .dict (es.map fun e => (.str (Text.ofString e.1), e.2))

/-- The text of an optional text, or null. -/
def ofOption : Option String → Value
  | some s => .str (Text.ofString s)
  | none => .null

end Value

end DocClient
