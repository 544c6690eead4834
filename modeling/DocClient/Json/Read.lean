import DocClient.Value.Basic
import DocClient.Text.Blank
import DocClient.Text.Utf8
import DocClient.Text.Wide
/-!
Reading JSON text into values, with `NaN` and the infinities, exact integers up to 4300
digits, repeated keys keeping their first place, and a limit on nesting. A failure names its
cause and offset; a body of bytes is decoded first.
-/
namespace DocClient

namespace Json

/-- Why a text is not JSON. -/
inductive Fault where
  | expectingValue
  | extraData
  | expectingName
  | expectingColon
  | expectingComma
  | unterminatedString
  | invalidControl
  | invalidEscape
  | invalidUnicodeEscape
  | unexpectedMark
  deriving DecidableEq, Repr

/-- The wording of a fault. -/
def Fault.text : Fault → String
  | .expectingValue => "Expecting value"
  | .extraData => "Extra data"
  | .expectingName => "Expecting property name enclosed in double quotes"
  | .expectingColon => "Expecting ':' delimiter"
  | .expectingComma => "Expecting ',' delimiter"
  | .unterminatedString => "Unterminated string starting at"
  | .invalidControl => "Invalid control character at"
  | .invalidEscape => "Invalid \\escape"
  | .invalidUnicodeEscape => "Invalid \\uXXXX escape"
  | .unexpectedMark => "Unexpected UTF-8 BOM (decode using utf-8-sig)"

/-- A failure to read: a fault at an offset, an integer too long, or nesting too deep. -/
inductive Failure where
  | malformed (fault : Fault) (position : Nat)
  | longInteger (digits : Nat)
  | tooDeep (array : Bool)
  deriving Repr

/-- The most digits an integer may have. -/
def maxIntegerDigits : Nat := 4300

/-- The room a reader has when a step calls it directly. -/
def stackRoom : Nat := 983

/-- Line and column (both from 1) of an offset in a text. -/
def lineColumn (doc : List Point) (pos : Nat) : Nat × Nat :=
  let before := doc.take pos
  let line := before.count (.char '\n') + 1
  let col := (before.reverse.takeWhile (· != .char '\n')).length + 1
  (line, col)

/-- The message of a failure in a text. -/
def Failure.message (doc : List Point) : Failure → String
  | .malformed f pos =>
    let lc := lineColumn doc pos
    s!"{f.text}: line {lc.1} column {lc.2} (char {pos})"
  | .longInteger n =>
    s!"Exceeds the limit ({maxIntegerDigits} digits) for integer string conversion: value has {n} digits; use sys.set_int_max_str_digits() to increase the limit"
  | .tooDeep array =>
    "maximum recursion depth exceeded while decoding a JSON " ++
      (if array then "array" else "object") ++ " from a unicode string"

/-- The rest of the input and its offset. -/
abbrev Rest := List Point × Nat

/-- Skip the blanks JSON allows between tokens. -/
def skipBlank : List Point → Nat → Rest
  | .char c :: cs, pos => if Blank.isJsonBlank c then skipBlank cs (pos + 1) else (.char c :: cs, pos)
  | cs, pos => (cs, pos)

/-- The value of a hexadecimal digit. -/
def hexValue (c : Char) : Option Nat :=
  if '0' ≤ c ∧ c ≤ '9' then some (c.toNat - 48)
  else if 'a' ≤ c ∧ c ≤ 'f' then some (c.toNat - 87)
  else if 'A' ≤ c ∧ c ≤ 'F' then some (c.toNat - 55)
  else none

/-- The value of four hexadecimal digits. -/
def hex4 : List Point → Option Nat
  | [.char a, .char b, .char c, .char d] => do
    let a ← hexValue a; let b ← hexValue b; let c ← hexValue c; let d ← hexValue d
    pure (((a * 16 + b) * 16 + c) * 16 + d)
  | _ => none

/-- The character a letter escape stands for. -/
def letterEscape : Char → Option Char
  | '"' => some '"'
  | '\\' => some '\\'
  | '/' => some '/'
  | 'b' => some '\x08'
  | 'f' => some '\x0c'
  | 'n' => some '\n'
  | 'r' => some '\r'
  | 't' => some '\t'
  | _ => none

/-- Read the body of a string whose opening quote stands at `begin`. -/
def scanString (begin : Nat) (acc : List Point) :
    Nat → List Point → Nat → Except Failure (Text × Rest)
  | 0, _, _ => .error (.malformed .unterminatedString begin)
  | fuel + 1, cs, pos =>
    match cs with
    | [] => .error (.malformed .unterminatedString begin)
    | .char '"' :: rest => .ok (⟨acc.reverse⟩, rest, pos + 1)
    | .char '\\' :: rest =>
      match rest with
      | [] => .error (.malformed .unterminatedString begin)
      | .char 'u' :: more =>
        -- four digits and at least one point after them
        if (more.drop 4).isEmpty then .error (.malformed .invalidUnicodeEscape (pos + 1))
        else
          match hex4 (more.take 4) with
          | none => .error (.malformed .invalidUnicodeEscape (pos + 1))
          | some hi =>
            let after := more.drop 4
            if 0xD800 ≤ hi ∧ hi < 0xDC00 ∧ !(after.drop 6).isEmpty ∧
                after.take 2 = [.char '\\', .char 'u'] then
              match hex4 ((after.drop 2).take 4) with
              | none => .error (.malformed .invalidUnicodeEscape (pos + 7))
              | some lo =>
                if 0xDC00 ≤ lo ∧ lo < 0xE000 then
                  let c := Char.ofNat (0x10000 + (hi - 0xD800) * 0x400 + (lo - 0xDC00))
                  scanString begin (.char c :: acc) fuel (after.drop 6) (pos + 12)
                else scanString begin (Point.ofNat hi :: acc) fuel after (pos + 6)
            else scanString begin (Point.ofNat hi :: acc) fuel after (pos + 6)
      | .char e :: more =>
        match letterEscape e with
        | some c => scanString begin (.char c :: acc) fuel more (pos + 2)
        | none => .error (.malformed .invalidEscape pos)
      | .surrogate _ :: _ => .error (.malformed .invalidEscape pos)
    | .char c :: rest =>
      if c.toNat < 0x20 then .error (.malformed .invalidControl pos)
      else scanString begin (.char c :: acc) fuel rest (pos + 1)
    | p :: rest => scanString begin (p :: acc) fuel rest (pos + 1)

/-- Split off a run of decimal digits. -/
def spanDigits (acc : List Char) : List Point → List Char × List Point
  | .char d :: r => if d.isDigit then spanDigits (d :: acc) r else (acc.reverse, .char d :: r)
  | r => (acc.reverse, r)

/-- The natural number of a digit list. -/
def digitsValue (ds : List Char) : Nat :=
  ds.foldl (fun n d => n * 10 + (d.toNat - 48)) 0

/-- The parts of a number token. -/
structure NumberToken where
  negative : Bool
  whole : List Char
  fraction : Option (List Char)
  exponent : Option (Bool × List Char)

/-- Whether a point is a decimal digit. -/
def isDigitPoint : Point → Bool
  | .char c => c.isDigit
  | .surrogate _ => false

/-- Match the longest number token at the head of the input. -/
def matchNumber (cs : List Point) : Option (NumberToken × Nat × List Point) :=
  let (neg, cs₁) := match cs with
    | .char '-' :: r => (true, r)
    | r => (false, r)
  let whole? : Option (List Char × List Point) := match cs₁ with
    | .char '0' :: r => some (['0'], r)
    | .char d :: r => if '1' ≤ d ∧ d ≤ '9' then some (spanDigits [d] r) else none
    | _ => none
  match whole? with
  | none => none
  | some (whole, cs₂) =>
    let (frac, cs₃) := match cs₂ with
      | .char '.' :: p :: r =>
        if isDigitPoint p then
          let (ds, r') := spanDigits [] (p :: r)
          (some ds, r')
        else (none, cs₂)
      | _ => (none, cs₂)
    let (expo, width, cs₄) : Option (Bool × List Char) × Nat × List Point :=
      match cs₃ with
      | .char m :: r =>
        if m = 'e' ∨ m = 'E' then
          let (sgn, signed, r₁) := match r with
            | .char '-' :: r' => (true, 1, r')
            | .char '+' :: r' => (false, 1, r')
            | r' => (false, 0, r')
          let (ds, r₂) := spanDigits [] r₁
          if ds.isEmpty then (none, 0, cs₃)
          else (some (sgn, ds), 1 + signed + ds.length, r₂)
        else (none, 0, cs₃)
      | _ => (none, 0, cs₃)
    let t : NumberToken := ⟨neg, whole, frac, expo⟩
    let w := (if neg then 1 else 0) + whole.length +
      (match frac with | some f => f.length + 1 | none => 0) + width
    some (t, w, cs₄)

/-- The value of a number token: an integer, or the nearest binary64. -/
def NumberToken.value (t : NumberToken) : Except Failure Value :=
  match t.fraction, t.exponent with
  | none, none =>
    if maxIntegerDigits < t.whole.length then .error (.longInteger t.whole.length)
    else
      let n : Int := digitsValue t.whole
      .ok (.int (if t.negative then -n else n))
  | frac, expo =>
    let fd := frac.getD []
    let e : Int := match expo with
      | some (neg, ds) => if neg then -(digitsValue ds : Int) else digitsValue ds
      | none => 0
    .ok (.float (Binary64.ofScientific t.negative (digitsValue (t.whole ++ fd)) (e - fd.length)))

/-- Whether the input starts with a word. -/
def startsWith (cs : List Point) (w : String) : Bool := cs.take w.length == (Text.ofString w).points

mutual

/-- Read one value, with room for `room` more nested containers. -/
def scanValue : Nat → Nat → List Point → Nat → Except Failure (Value × Rest)
  | 0, _, _, pos => .error (.malformed .expectingValue pos)
  | fuel + 1, room, cs, pos =>
    match cs with
    | [] => .error (.malformed .expectingValue pos)
    | .char '"' :: rest => do
      let (s, r) ← scanString pos [] (rest.length + 1) rest (pos + 1)
      pure (.str s, r)
    | .char '\x7b' :: rest =>
      match room with
      | 0 => .error (.tooDeep false)
      | room + 1 =>
        let (r, p) := skipBlank rest (pos + 1)
        match r with
        | .char '\x7d' :: r' => .ok (.dict [], r', p + 1)
        | _ => scanMembers fuel room [] r p
    | .char '[' :: rest =>
      match room with
      | 0 => .error (.tooDeep true)
      | room + 1 =>
        let (r, p) := skipBlank rest (pos + 1)
        match r with
        | .char ']' :: r' => .ok (.list [], r', p + 1)
        | _ => scanElements fuel room [] r p
    | _ =>
      if startsWith cs "null" then .ok (.null, cs.drop 4, pos + 4)
      else if startsWith cs "true" then .ok (.bool true, cs.drop 4, pos + 4)
      else if startsWith cs "false" then .ok (.bool false, cs.drop 5, pos + 5)
      else
        match matchNumber cs with
        | some (t, w, r) => do
          let v ← t.value
          pure (v, r, pos + w)
        | none =>
          if startsWith cs "NaN" then .ok (.float Binary64.nan, cs.drop 3, pos + 3)
          else if startsWith cs "Infinity" then .ok (.float (Binary64.infinity false), cs.drop 8, pos + 8)
          else if startsWith cs "-Infinity" then .ok (.float (Binary64.infinity true), cs.drop 9, pos + 9)
          else .error (.malformed .expectingValue pos)

/-- Read the members of an object after its opening brace and blanks. -/
def scanMembers : Nat → Nat → List (Value × Value) → List Point → Nat → Except Failure (Value × Rest)
  | 0, _, _, _, pos => .error (.malformed .expectingName pos)
  | fuel + 1, room, acc, cs, pos =>
    match cs with
    | .char '"' :: rest => do
      let (key, r, p) ← scanString pos [] (rest.length + 1) rest (pos + 1)
      let (r, p) := skipBlank r p
      match r with
      | .char ':' :: r' =>
        let (r, p) := skipBlank r' (p + 1)
        let (v, r, p) ← scanValue fuel room r p
        let acc := Value.insert (.str key) v acc
        let (r, p) := skipBlank r p
        match r with
        | .char '\x7d' :: r' => pure (.dict acc, r', p + 1)
        | .char ',' :: r' =>
          let (r, p) := skipBlank r' (p + 1)
          scanMembers fuel room acc r p
        | _ => .error (.malformed .expectingComma p)
      | _ => .error (.malformed .expectingColon p)
    | _ => .error (.malformed .expectingName pos)

/-- Read the elements of an array after its opening bracket and blanks. -/
def scanElements : Nat → Nat → List Value → List Point → Nat → Except Failure (Value × Rest)
  | 0, _, _, _, pos => .error (.malformed .expectingValue pos)
  | fuel + 1, room, acc, cs, pos => do
    let (v, r, p) ← scanValue fuel room cs pos
    let (r, p) := skipBlank r p
    match r with
    | .char ']' :: r' => pure (.list (v :: acc).reverse, r', p + 1)
    | .char ',' :: r' =>
      let (r, p) := skipBlank r' (p + 1)
      scanElements fuel room (v :: acc) r p
    | _ => .error (.malformed .expectingComma p)

end

/-- Read a whole text as one value, with room for `limit` nested containers. -/
def readPoints (limit : Nat) (doc : List Point) : Except Failure Value :=
  let (r, p) := skipBlank doc 0
  match scanValue (2 * doc.length + 2) limit r p with
  | .error e => .error e
  | .ok (v, r, p) =>
    let (r, p) := skipBlank r p
    if r.isEmpty then .ok v else .error (.malformed .extraData p)

/-- Read a text; a leading byte-order mark is refused. -/
def readText (limit : Nat) (t : Text) : Except Failure Value :=
  match t.points with
  | .char '\uFEFF' :: _ => .error (.malformed .unexpectedMark 0)
  | doc => readPoints limit doc

/-- Read a string, with no bound on nesting but its length. -/
def read (s : String) : Except Failure Value := readText (s.length + 1) s

/-- The encodings a body of bytes can be in. -/
inductive Encoding where
  /-- UTF-32 or UTF-16 after a byte-order mark, which sets the byte order. -/
  | marked (width : Nat) (order : Wide.ByteOrder)
  /-- UTF-32 or UTF-16 without a mark, in the byte order its zero bytes show. -/
  | wide (width : Nat) (order : Wide.ByteOrder)
  /-- UTF-8 after its byte-order mark. -/
  | markedUtf8
  | utf8
  deriving DecidableEq, Repr

/-- The encoding of a body, from its byte-order mark or its zero bytes. -/
def detectEncoding : List UInt8 → Encoding
  | 0x00 :: 0x00 :: 0xFE :: 0xFF :: _ => .marked 4 .big
  | 0xFF :: 0xFE :: 0x00 :: 0x00 :: _ => .marked 4 .little
  | 0xFE :: 0xFF :: _ => .marked 2 .big
  | 0xFF :: 0xFE :: _ => .marked 2 .little
  | 0xEF :: 0xBB :: 0xBF :: _ => .markedUtf8
  | b0 :: b1 :: b2 :: b3 :: _ =>
    if b0 = 0 then (if b1 = 0 then .wide 4 .big else .wide 2 .big)
    else if b1 = 0 then (if b2 = 0 ∧ b3 = 0 then .wide 4 .little else .wide 2 .little)
    else .utf8
  | [b0, b1] =>
    if b0 = 0 then .wide 2 .big
    else if b1 = 0 then .wide 2 .little
    else .utf8
  | _ => .utf8

/-- Why a body of bytes is not a JSON value. -/
inductive BodyFailure where
  | encoding (m : Utf8.Malformed)
  | wideEncoding (f : Wide.Fault)
  | json (doc : List Point) (f : Failure)

/-- The message of a body failure. -/
def BodyFailure.message : BodyFailure → String
  | .encoding m => m.message
  | .wideEncoding f => f.message
  | .json doc f => f.message doc

/-- Decode the bytes of a body in their encoding, letting surrogates through. -/
def decodeBody (bs : List UInt8) : Except BodyFailure Text :=
  let wide (width : Nat) (order : Wide.ByteOrder) (skip : Nat) : Except BodyFailure Text :=
    let decoded := if width = 4 then Wide.decode32 order skip (bs.drop skip)
      else Wide.decode16 order skip (bs.drop skip)
    decoded.mapError .wideEncoding
  match detectEncoding bs with
  | .marked width order => wide width order width
  | .wide width order => wide width order 0
  | .markedUtf8 => (Utf8.decodeLenient (bs.drop 3)).mapError .encoding
  | .utf8 => (Utf8.decodeLenient bs).mapError .encoding

/-- Read a body of bytes with room for `limit` containers inside one another. -/
def readBytes (limit : Nat) (bs : List UInt8) : Except BodyFailure Value := do
  let t ← decodeBody bs
  (readPoints limit t.points).mapError (.json t.points)

end Json

end DocClient
