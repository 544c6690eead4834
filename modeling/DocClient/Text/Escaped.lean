import DocClient.Text.Utf8
/-!
Bytes that are not UTF-8, carried through a text as the lone surrogates U+DC80 to U+DCFF,
and written back as those bytes.
-/
namespace DocClient

namespace Utf8

/-- The escape of a byte: the lone surrogate U+DC00 + byte. -/
def escapeByte (b : UInt8) : Point :=
  .surrogate ⟨0x400 + b.toNat, by have := b.toNat_lt; omega⟩

/-- The byte an escape stands for: only U+DC80 to U+DCFF are escapes. -/
def escapedByte? (k : Fin 2048) : Option UInt8 :=
  if 0x480 ≤ k.val ∧ k.val < 0x500 then some (k.val - 0x400).toUInt8 else none

/-- Decode, escaping every byte of each bad sequence; the points so far are kept reversed. -/
def decodeEscapingFrom (acc : List Point) : List UInt8 → List Point
  | [] => acc.reverse
  | b :: rest =>
    have _h := step_length_pos b rest
    match _hs : step b rest with
    | .char c n => decodeEscapingFrom (.char c :: acc) ((b :: rest).drop n)
    | .bad n _ =>
      decodeEscapingFrom (((b :: rest).take n).reverse.map escapeByte ++ acc) ((b :: rest).drop n)
termination_by bs => bs.length
decreasing_by
  all_goals simp only [_hs, Step.length] at _h; simp only [List.length_drop, List.length_cons]; omega

/-- The text of any bytes, bad sequences escaped byte by byte. -/
def decodeEscaping (bs : List UInt8) : Text := ⟨decodeEscapingFrom [] bs⟩

/-- The surrogates at the head of a list of points. -/
def leadingSurrogates (ps : List Point) : List (Fin 2048) :=
  (ps.takeWhile (·.isSurrogate)).filterMap fun
    | .surrogate k => some k
    | .char _ => none

/-- Encode from position `pos`, writing escapes as their bytes. -/
def encodeEscapingFrom (pos : Nat) : List Point → Except Unencodable (List UInt8)
  | [] => .ok []
  | .char c :: rest => (encodeChar c ++ ·) <$> encodeEscapingFrom (pos + 1) rest
  | .surrogate k :: rest =>
    match escapedByte? k with
    | some b => (b :: ·) <$> encodeEscapingFrom (pos + 1) rest
    | none => .error ⟨pos, k :: leadingSurrogates rest⟩

/-- The bytes of a text, escapes written as their bytes. -/
def encodeEscaping (t : Text) : Except Unencodable (List UInt8) := encodeEscapingFrom 0 t.points

theorem escapedByte?_escapeByte (b : UInt8) (h : 0x80 ≤ b.toNat) :
    escapedByte? ⟨0x400 + b.toNat, by have := b.toNat_lt; omega⟩ = some b := by
  have hb := b.toNat_lt
  simp only [escapedByte?]
  rw [if_pos (by omega)]
  simp only [Option.some.injEq, Nat.add_sub_cancel_left]
  exact UInt8.toNat_inj.mp (by simp)

end Utf8

end DocClient
