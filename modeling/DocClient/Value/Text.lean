import DocClient.Value.Basic
import DocClient.Decimal.Shortest
import DocClient.Text.Printable
/-!
The display text of values, as messages quote them.
-/
namespace DocClient

namespace Value

/-- How numbers print: positionally near the point, else with a signed exponent. -/
def numberLayout : Decimal.Layout :=
  { pointLow := -3, pointHigh := 16, mark := "e", signedExponent := true, exponentWidth := 2,
    pointZero := true }

/-- The display text of a number. -/
def floatText (x : Binary64) : String :=
  if x.isNaN then "nan"
  else if x.isInfinite then (if x.negative then "-inf" else "inf")
  else Decimal.render numberLayout x

/-- The decimal text of an integer. -/
def intText (i : Int) : String :=
  if i < 0 then "-" ++ Decimal.digits i.natAbs else Decimal.digits i.natAbs

/-- Lowercase hexadecimal digits of `n`, padded to `w`. -/
def hexPadded (w n : Nat) : String :=
  let ds := Nat.toDigits 16 n
  String.ofList (List.replicate (w - ds.length) '0' ++ ds)

/-- The escape of one character inside a quoted text. -/
def escapeChar (q : Char) (c : Char) : List Char :=
  if c = '\\' then ['\\', '\\']
  else if c = q then ['\\', q]
  else if c = '\t' then ['\\', 't']
  else if c = '\n' then ['\\', 'n']
  else if c = '\r' then ['\\', 'r']
  else if Printable.isPrintable c then [c]
  else if c.toNat < 0x100 then ('\\' :: 'x' :: (hexPadded 2 c.toNat).toList)
  else if c.toNat < 0x10000 then ('\\' :: 'u' :: (hexPadded 4 c.toNat).toList)
  else ('\\' :: 'U' :: (hexPadded 8 c.toNat).toList)

/-- The escape of one point inside a quoted text: a lone surrogate is never printable. -/
def escapePoint (q : Char) : Point → List Char
  | .char c => escapeChar q c
  | .surrogate k => '\\' :: 'u' :: (hexPadded 4 (0xD800 + k.val)).toList

/-- A quoted text. -/
def quote (t : Text) : String :=
  let q := if t.points.contains (.char '\'') && !t.points.contains (.char '"') then '"' else '\''
  String.ofList (q :: t.points.flatMap (escapePoint q) ++ [q])

/-- Items joined by a comma and a space. -/
def joinItems (xs : List String) : String := ", ".intercalate xs

mutual

/-- The display text of a value. -/
def repr : Value → String
  | .null => "None"
  | .bool b => if b then "True" else "False"
  | .int i => intText i
  | .float x => floatText x
  | .str s => quote s
  | .list xs => "[" ++ joinItems (reprList xs) ++ "]"
  | .tuple xs =>
    let items := reprList xs
    if items.length = 1 then "(" ++ joinItems items ++ ",)" else "(" ++ joinItems items ++ ")"
  | .set xs => if xs.isEmpty then "set()" else "\x7b" ++ joinItems (reprList xs) ++ "\x7d"
  | .dict es => "\x7b" ++ joinItems (reprEntries es) ++ "\x7d"
  | .record s fs .. => s.name ++ "(" ++ joinItems (reprFields s "=" fs) ++ ")"
  | .updateMode m => "<UpdateView." ++ m.member ++ ": " ++ quote m.text ++ ">"

def reprList : List Value → List String
  | [] => []
  | x :: xs => repr x :: reprList xs

def reprEntries : List (Value × Value) → List String
  | [] => []
  | (k, v) :: rest => (repr k ++ ": " ++ repr v) :: reprEntries rest

/-- The displayed entries of a record's table: its schema's fields, in table order. -/
def reprFields (s : Schema) (sep : String) : List (String × Value) → List String
  | [] => []
  | (n, v) :: rest =>
    if s.fieldNames.contains n then (n ++ sep ++ repr v) :: reprFields s sep rest
    else reprFields s sep rest

end

/-- The plain text of a value. -/
def text : Value → Text
  | .str s => s
  | .record s fs .. => Text.ofString (" ".intercalate (reprFields s "=" fs))
  | .updateMode m => Text.ofString ("UpdateView." ++ m.member)
  | v => Text.ofString (repr v)


end Value

end DocClient
