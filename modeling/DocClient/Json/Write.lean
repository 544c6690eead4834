import DocClient.Value.Text
/-!
Writing values as JSON text in a `Style`. The first value that cannot be written decides
the failure, and each container takes one place of the room the caller's stack leaves.
-/
namespace DocClient

namespace Json

/-- How a writer lays out its text. -/
structure Style where
  itemSeparator : String
  keySeparator : String
  asciiOnly : Bool
  allowNonFinite : Bool

/-- The layout of request bodies: no spaces, text as it is, non-finite numbers refused. -/
def Style.wire : Style := ⟨",", ":", false, false⟩

/-- The layout of the default writer. -/
def Style.spaced : Style := ⟨", ", ": ", true, true⟩

/-- Why a value cannot be written. -/
inductive WriteFailure where
  /-- A NaN or an infinity where they are refused. -/
  | outOfRange
  /-- A value of a kind JSON has no form for. -/
  | unsupported (typeName : String)
  /-- An object key of a kind that has no text. -/
  | badKey (typeName : String)
  /-- No room left for a container, or for the call that refuses a value with no JSON form. -/
  | tooDeep (inCall : Bool)
  deriving Repr

/-- The message of a write failure. -/
def WriteFailure.message : WriteFailure → String
  | .outOfRange => "Out of range float values are not JSON compliant"
  | .unsupported t => s!"Object of type {t} is not JSON serializable"
  | .badKey t => s!"keys must be str, int, float, bool or None, not {t}"
  | .tooDeep inCall => "maximum recursion depth exceeded while " ++
      (if inCall then "calling a Python object" else "encoding a JSON object")

/-- Four lowercase hexadecimal digits. -/
def hex4Text (n : Nat) : List Char := (Value.hexPadded 4 n).toList

/-- The escape of one character of a JSON string. -/
def escapeChar (ascii : Bool) (c : Char) : List Char :=
  if c = '"' then ['\\', '"']
  else if c = '\\' then ['\\', '\\']
  else if c = '\n' then ['\\', 'n']
  else if c = '\r' then ['\\', 'r']
  else if c = '\t' then ['\\', 't']
  else if c = '\x08' then ['\\', 'b']
  else if c = '\x0c' then ['\\', 'f']
  else if c.toNat < 0x20 then '\\' :: 'u' :: hex4Text c.toNat
  else if ascii ∧ 0x7E < c.toNat then
    if c.toNat < 0x10000 then '\\' :: 'u' :: hex4Text c.toNat
    else
      let n := c.toNat - 0x10000
      ('\\' :: 'u' :: hex4Text (0xD800 + n / 0x400)) ++ ('\\' :: 'u' :: hex4Text (0xDC00 + n % 0x400))
  else [c]

/-- The escape of one point of a JSON string. -/
def escapePoint (ascii : Bool) : Point → List Point
  | .char c => (escapeChar ascii c).map .char
  | .surrogate k =>
    if ascii then ('\\' :: 'u' :: hex4Text (0xD800 + k.val)).map .char else [.surrogate k]

/-- A JSON string. -/
def quoteText (ascii : Bool) (t : Text) : Text :=
  ⟨.char '"' :: t.points.flatMap (escapePoint ascii) ++ [.char '"']⟩

/-- The text of a number. -/
def floatText (st : Style) (x : Binary64) : Except WriteFailure String :=
  if x.isFinite then .ok (Value.floatText x)
  else if !st.allowNonFinite then .error .outOfRange
  else if x.isNaN then .ok "NaN"
  else if x.negative then .ok "-Infinity" else .ok "Infinity"

/-- The text of an object key. -/
def keyText (st : Style) : Value → Except WriteFailure Text
  | .str s => .ok (quoteText st.asciiOnly s)
  | .updateMode m => .ok (quoteText st.asciiOnly m.text)
  | .bool b => .ok (if b then "\"true\"" else "\"false\"")
  | .null => .ok "\"null\""
  | .int i => .ok (Text.ofString ("\"" ++ Value.intText i ++ "\""))
  | .float x => do
    let t ← floatText st x
    pure (Text.ofString ("\"" ++ t ++ "\""))
  | v => .error (.badKey v.typeName)

mutual

/-- The JSON text of a value, with room for `room` more containers inside one another. -/
def write (st : Style) : Nat → Value → Except WriteFailure Text
  | _, .null => .ok "null"
  | _, .bool b => .ok (if b then "true" else "false")
  | _, .int i => .ok (Value.intText i)
  | _, .float x => (floatText st x).map Text.ofString
  | _, .str s => .ok (quoteText st.asciiOnly s)
  | _, .updateMode m => .ok (quoteText st.asciiOnly m.text)
  | 0, .list _ | 0, .tuple _ | 0, .dict _ => .error (.tooDeep false)
  | room + 1, .list xs => do
    let items ← writeList st room xs
    pure (Text.ofString "[" ++ Text.intercalate st.itemSeparator items ++ Text.ofString "]")
  | room + 1, .tuple xs => do
    let items ← writeList st room xs
    pure (Text.ofString "[" ++ Text.intercalate st.itemSeparator items ++ Text.ofString "]")
  | room + 1, .dict es => do
    let items ← writeEntries st room es
    pure (Text.ofString "\x7b" ++ Text.intercalate st.itemSeparator items ++ Text.ofString "\x7d")
  | room, v => .error (if room < 2 then .tooDeep true else .unsupported v.typeName)

def writeList (st : Style) (room : Nat) : List Value → Except WriteFailure (List Text)
  | [] => .ok []
  | x :: xs => do
    let t ← write st room x
    let ts ← writeList st room xs
    pure (t :: ts)

def writeEntries (st : Style) (room : Nat) : List (Value × Value) → Except WriteFailure (List Text)
  | [] => .ok []
  | (k, v) :: rest => do
    let kt ← keyText st k
    let vt ← write st room v
    let ts ← writeEntries st room rest
    pure ((kt ++ Text.ofString st.keySeparator ++ vt) :: ts)

end

/-- The JSON text of a value in a style that writes ASCII only. -/
def writeAscii (st : Style) (room : Nat) (v : Value) : Except WriteFailure String :=
  (write { st with asciiOnly := true } room v).map Text.lossy

end Json

end DocClient
