import DocClient.Error
/-!
The items a value yields, an object built from a value, and the sign test on bounds, as the
query builders use them.
-/
namespace DocClient

namespace Value

/-- The items a value yields when walked. Scalars yield nothing and are refused. -/
def items : Value → Except Error (List Value)
  | .list xs | .tuple xs | .set xs => .ok xs
  | .str s => .ok (s.points.map fun p => .str (Text.single p))
  | .updateMode m => .ok (m.text.toList.map fun c => .str (String.singleton c))
  | .dict es => .ok (es.map (·.1))
  | .record _ fs _ _ _ ss =>
    let own := (fs.filter fun f => !f.1.startsWith "_").map fun f => Value.tuple [.str f.1, f.2]
    match (ss.find? (·.1 = "__pydantic_extra__")).map (·.2) with
    | some x =>
      if !x.truthy then .ok own
      else
        match x with
        | .dict es => .ok (own ++ es.map fun e => .tuple [e.1, e.2])
        | _ => .error (.attribute x.typeName "items")
    | none => .ok own
  | v => .error (.type s!"'{v.typeName}' object is not iterable")

/-- The first part of a value that cannot be a key. -/
def unhashablePart? : Value → Option Value
  | .tuple xs => xs.attach.findSome? fun ⟨x, _⟩ => unhashablePart? x
  | v@(.list _) | v@(.set _) | v@(.dict _) | v@(.record ..) => some v
  | _ => none

/-- Refuse a value that cannot be a key, naming the type of the part that cannot. -/
def checkKey (v : Value) : Except Error Unit :=
  match v.unhashablePart? with
  | none => .ok ()
  | some p => .error (.type s!"unhashable type: '{p.typeName}'")

/-- The entries of an object built from a value. -/
def toEntries (v : Value) : Except Error (List (Value × Value)) :=
  match v with
  | .dict es => .ok es
  | _ => do
    let xs ← v.items
    let rec go : Nat → List (Value × Value) → List Value → Except Error (List (Value × Value))
      | _, acc, [] => .ok acc
      | i, acc, x :: rest =>
        match x.items with
        | .error _ =>
          .error (.type s!"cannot convert dictionary update sequence element #{i} to a sequence")
        | .ok [k, w] => do
          checkKey k
          go (i + 1) (Value.insert k w acc) rest
        | .ok parts =>
          .error (.value s!"dictionary update sequence element #{i} has length {parts.length}; 2 is required")
    go 0 [] xs

/-- Whether a bound is below zero. Numbers compare; other kinds are refused. -/
def isNegative (v : Value) : Except Error Bool :=
  match v with
  | .int i => .ok (i < 0)
  | .bool _ => .ok false
  | .float x => .ok (!x.isNaN && x.negative && !x.isZero)
  | _ => .error (.type s!"'<' not supported between instances of '{v.typeName}' and 'int'")

end Value

end DocClient
