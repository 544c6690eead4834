import DocClient.Text.Basic
/-!
The wide encodings UTF-16 and UTF-32 in either byte order, decoding with lone surrogates let
through; a failure names its bytes and their position in the whole input.
-/
namespace DocClient

namespace Wide

/-- The order of the bytes within a unit. -/
inductive ByteOrder where
  | little
  | big
  deriving DecidableEq, Repr

/-- A failure to decode: the codec, where the offending bytes start, the bytes, and why. -/
structure Fault where
  codec : String
  position : Nat
  bytes : List UInt8
  reason : String

/-- Two lowercase hexadecimal digits. -/
def hexByte (b : UInt8) : String :=
  let d (n : Nat) : Char := if n < 10 then Char.ofNat (48 + n) else Char.ofNat (87 + n)
  String.ofList [d (b.toNat / 16), d (b.toNat % 16)]

/-- The message of a failure. -/
def Fault.message (f : Fault) : String :=
  match f.bytes with
  | [b] => s!"'{f.codec}' codec can't decode byte 0x{hexByte b} in position {f.position}: {f.reason}"
  | bs =>
    s!"'{f.codec}' codec can't decode bytes in position {f.position}-{f.position + bs.length - 1}: {f.reason}"

/-- The value of bytes read as one unit in a byte order. -/
def unitValue (order : ByteOrder) (bs : List UInt8) : Nat :=
  let ordered := match order with
    | .little => bs.reverse
    | .big => bs
  ordered.foldl (fun n b => n * 256 + b.toNat) 0

/-- The name of a codec for a unit width and byte order. -/
def codecName (width : Nat) (order : ByteOrder) : String :=
  s!"utf-{width * 8}-" ++ (match order with
    | .little => "le"
    | .big => "be")

/-- Decode UTF-16 from byte offset `pos`. -/
def decode16From (order : ByteOrder) (pos : Nat) (acc : List Point) :
    List UInt8 → Except Fault (List Point)
  | [] => .ok acc.reverse
  | [b] => .error ⟨codecName 2 order, pos, [b], "truncated data"⟩
  | a :: b :: rest =>
    let u := unitValue order [a, b]
    let lone := decode16From order (pos + 2) (Point.ofNat u :: acc) rest
    if 0xD800 ≤ u ∧ u < 0xDC00 then
      match rest with
      | c :: d :: more =>
        let w := unitValue order [c, d]
        if 0xDC00 ≤ w ∧ w < 0xE000 then
          decode16From order (pos + 4)
            (.char (Char.ofNat (0x10000 + (u - 0xD800) * 0x400 + (w - 0xDC00))) :: acc) more
        else lone
      | _ => lone
    else lone

/-- Decode UTF-32 from byte offset `pos`. -/
def decode32From (order : ByteOrder) (pos : Nat) (acc : List Point) :
    List UInt8 → Except Fault (List Point)
  | [] => .ok acc.reverse
  | a :: b :: c :: d :: rest =>
    let u := unitValue order [a, b, c, d]
    if u < 0x110000 then decode32From order (pos + 4) (Point.ofNat u :: acc) rest
    else .error ⟨codecName 4 order, pos, [a, b, c, d], "code point not in range(0x110000)"⟩
  | tail => .error ⟨codecName 4 order, pos, tail, "truncated data"⟩

/-- Decode UTF-16 bytes that start at offset `pos` of the input. -/
def decode16 (order : ByteOrder) (pos : Nat) (bs : List UInt8) : Except Fault Text :=
  (decode16From order pos [] bs).map Text.mk

/-- Decode UTF-32 bytes that start at offset `pos` of the input. -/
def decode32 (order : ByteOrder) (pos : Nat) (bs : List UInt8) : Except Fault Text :=
  (decode32From order pos [] bs).map Text.mk

theorem decode16_pair :
    (decode16 .little 0 [0x3D, 0xD8, 0x00, 0xDE]).toOption = some ⟨[.char '😀']⟩ := by
  decide +kernel

theorem decode16_lone :
    (decode16 .big 0 [0xD8, 0x00, 0x00, 0x61]).toOption = some ⟨[.surrogate 0, .char 'a']⟩ := by
  decide +kernel

end Wide

end DocClient
