import DocClient.Error
import DocClient.Decimal.Read
import DocClient.Text.Blank
/-!
The typed document classes, and lax validation against any schema: each field read from
its key, converted by its type's lax rules, every complaint gathered in field order.
-/
namespace DocClient

namespace Schema

/-- A person: `name`, `age` and `tags`. -/
def user : Schema where
  name := "User"
  fields := [⟨"name", "name", .text, none⟩, ⟨"age", "age", .integer, none⟩,
    ⟨"tags", "tags", .textList, some .emptyList⟩]
  names_nodup := by decide
  keys_nodup := by decide
  name_not_reserved := by decide
  key_not_reserved := by decide
  default_admitted := by decide

/-- A note with one text. -/
def note : Schema where
  name := "Note"
  fields := [⟨"text", "text", .text, some (.str "")⟩]
  names_nodup := by decide
  keys_nodup := by decide
  name_not_reserved := by decide
  key_not_reserved := by decide
  default_admitted := by decide

/-- An event: `kind` (written under the key "type"), `count`, `score` and `meta`. -/
def event : Schema where
  name := "Event"
  fields := [⟨"kind", "type", .text, none⟩, ⟨"count", "count", .integer, some (.int 0)⟩,
    ⟨"score", "score", .optionalNumber, some .null⟩, ⟨"meta", "meta", .object, some .emptyObject⟩]
  names_nodup := by decide
  keys_nodup := by decide
  name_not_reserved := by decide
  key_not_reserved := by decide
  default_admitted := by decide

/-- The bare typed document with no fields of its own. -/
def plain : Schema where
  name := "Document"
  fields := []
  names_nodup := by decide
  keys_nodup := by decide
  name_not_reserved := by decide
  key_not_reserved := by decide
  default_admitted := by decide

/-- The schema a class name names. -/
def ofName? : String → Option Schema
  | "User" => some user
  | "Note" => some note
  | "Event" => some event
  | "Document" => some plain
  | _ => none

end Schema

namespace Lax

/-- The bounds of the 64-bit integers, as a number must lie strictly between them. -/
def highBound : Int := Int.pow 2 63

/-- The lower bound, the negated upper one. -/
def lowBound : Int := -highBound

/-- A text without the decimal zeros that end it. -/
def dropDecimalZeros (cs : List Char) : List Char :=
  let afterLast := (cs.reverse.takeWhile (· ≠ '.')).reverse
  if afterLast.length < cs.length ∧ !afterLast.isEmpty ∧ afterLast.all (· = '0') then
    cs.take (cs.length - afterLast.length - 1)
  else cs

/-- An integer from a text: trimmed, at most 4300 bytes, decimal zeros dropped. -/
def intOfText (s : String) : Except String Int :=
  let t := Blank.trimBy Blank.isWhiteSpace s.toList
  if 4300 < (String.ofList t).utf8ByteSize then .error "int_parsing_size"
  else
    match Decimal.readGroupedInt (dropDecimalZeros t) with
    | some i => .ok i
    | none => .error "int_parsing"

/-- An integer field's value. -/
def integer : Value → Except String Value
  | .int i => .ok (.int i)
  | .bool b => .ok (.int (if b then 1 else 0))
  | .float x =>
    if !x.isFinite then .error "finite_number"
    else if !x.isIntegral then .error "int_from_float"
    else
      let i := x.truncate
      if lowBound < i ∧ i < highBound then .ok (.int i) else .error "int_parsing_size"
  | .str s =>
    match s.toString? with
    | some t => (intOfText t).map .int
    | none => .error "string_unicode"
  | .updateMode m => (intOfText m.text).map .int
  | _ => .error "int_type"

/-- A number from a text: trimmed and read, else read whole without underscores. -/
def numberOfChars (cs : List Char) : Except String Value :=
  match Decimal.readFloat false (Blank.trimBy Blank.isWhiteSpace cs) with
  | some x => .ok (.float x)
  | none =>
    match (Decimal.dropUnderscores cs).bind (Decimal.readFloat false) with
    | some x => .ok (.float x)
    | none => .error "float_parsing"

/-- A number field's value; a member of a text enumeration is read as its text. -/
def number : Value → Except String Value
  | .float x => .ok (.float x)
  | .int i =>
    -- an integer beyond the largest finite number has no float
    let x := Binary64.ofInt i
    if x.isInfinite then .error "float_type" else .ok (.float x)
  | .bool b => .ok (.float (Binary64.ofInt (if b then 1 else 0)))
  | .str s =>
    match s.toChars? with
    | none => .error "string_unicode"
    | some cs => numberOfChars cs
  | .updateMode m => numberOfChars m.text.toList
  | _ => .error "float_type"

/-- A text field's value. -/
def text : Value → Except String Value
  | .str s => .ok (.str s)
  | .updateMode m => .ok (.str m.text)
  | _ => .error "string_type"

end Lax

/-- Complaints at one path. -/
def issueAt (path : List String) (kind : String) : Issue := ⟨kind, path⟩

/-- Validate the items of a list of texts, each at its index. -/
def textItems (key : String) : Nat → List Value → List Value × List Issue
  | _, [] => ([], [])
  | i, x :: xs =>
    let rest := textItems key (i + 1) xs
    match Lax.text x with
    | .ok v => (v :: rest.1, rest.2)
    | .error k => (rest.1, issueAt [key, toString i] k :: rest.2)

/-- Validate one field's value, with complaints located under `key`. -/
def FieldType.check (key : String) : FieldType → Value → Except (List Issue) Value
  | .text, v => (Lax.text v).mapError fun k => [issueAt [key] k]
  | .integer, v => (Lax.integer v).mapError fun k => [issueAt [key] k]
  | .optionalNumber, .null => .ok .null
  | .optionalNumber, v => (Lax.number v).mapError fun k => [issueAt [key] k]
  | .object, .dict es => .ok (.dict es)
  | .object, _ => .error [issueAt [key] "dict_type"]
  | .textList, v =>
    match v with
    | .list xs | .tuple xs | .set xs =>
      let r := textItems key 0 xs
      if r.2.isEmpty then .ok (.list r.1) else .error r.2
    | _ => .error [issueAt [key] "list_type"]

namespace Schema

/-- Validate data against a schema: the field values in order, or every complaint. -/
def validate (s : Schema) (data : List (Value × Value)) : Except Invalid (List (String × Value)) :=
  let step (acc : List (String × Value) × List Issue) (f : Field) :=
    match Value.get? data f.key with
    | some v =>
      match f.type.check f.key v with
      | .ok w => (acc.1 ++ [(f.name, w)], acc.2)
      | .error is => (acc.1, acc.2 ++ is)
    | none =>
      match f.default with
      | some d => (acc.1 ++ [(f.name, d.toValue)], acc.2)
      | none => (acc.1, acc.2 ++ [issueAt [f.key] "missing"])
  let r := s.fields.foldl step ([], [])
  if r.2.isEmpty then .ok r.1 else .error ⟨s.name, r.2⟩

/-- Assign one field by name: the record's table after it, or the complaint. -/
def assign (s : Schema) (fs : List (String × Value)) (name : String) (v : Value) :
    Except Invalid (List (String × Value)) :=
  match s.fields.find? (·.name = name) with
  | none => .error ⟨s.name, [issueAt [name] "no_such_attribute"]⟩
  | some f =>
    match f.type.check name v with
    | .ok w =>
      if fs.any (·.1 = name) then .ok (fs.map fun e => if e.1 = name then (e.1, w) else e)
      else .ok (fs ++ [(name, w)])
    | .error is => .error ⟨s.name, is⟩

end Schema

mutual

/-- The plain JSON form of a value of no declared type inside a dump. -/
def Value.jsonForm : Value → Value
  | .float x => if x.isFinite then .float x else .null
  | .tuple xs => .list (Value.jsonFormList xs)
  | .set xs => .list (Value.jsonFormList xs)
  | .list xs => .list (Value.jsonFormList xs)
  | .dict es => .dict (Value.jsonFormEntries es)
  | .updateMode m => .str m.text
  | .record s fs .. => .dict (Value.jsonFormFields s fs)
  | v => v

def Value.jsonFormList : List Value → List Value
  | [] => []
  | x :: xs => x.jsonForm :: Value.jsonFormList xs

def Value.jsonFormEntries : List (Value × Value) → List (Value × Value)
  | [] => []
  | (k, v) :: rest => (k.jsonForm, v.jsonForm) :: Value.jsonFormEntries rest

/-- The dumped form of a number field's value. -/
def Value.numberForm : Value → Value
  | .float x => .float x
  | .int i => .float (Binary64.ofInt i)
  | v => v.jsonForm

/-- The dumped fields of a record's table, under their keys, in table order. -/
def Value.jsonFormFields (s : Schema) : List (String × Value) → List (Value × Value)
  | [] => []
  | (n, v) :: rest =>
    match s.fields.find? (·.name = n) with
    | some f =>
      let w := if f.type = .optionalNumber then Value.numberForm v else v.jsonForm
      (.str f.key, w) :: Value.jsonFormFields s rest
    | none => Value.jsonFormFields s rest

end

namespace Schema

/-- The dump of a record's fields, in declaration order. -/
def dump (s : Schema) (fs : List (String × Value)) : List (Value × Value) :=
  Value.jsonFormFields s fs

end Schema

end DocClient
