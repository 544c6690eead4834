import DocClient.Text.Basic
/-!
UTF-8 over byte lists: encoding, strict decoding that reports the first maximal subpart,
decoding with replacement, and a lenient decoder that lets encoded surrogates through.
-/
namespace DocClient

namespace Utf8

/-- The bytes of one code point. -/
def encodeChar (c : Char) : List UInt8 :=
  let n := c.toNat
  if n < 0x80 then [n.toUInt8]
  else if n < 0x800 then [(0xC0 + n / 64).toUInt8, (0x80 + n % 64).toUInt8]
  else if n < 0x10000 then
    [(0xE0 + n / 4096).toUInt8, (0x80 + n / 64 % 64).toUInt8, (0x80 + n % 64).toUInt8]
  else
    [(0xF0 + n / 262144).toUInt8, (0x80 + n / 4096 % 64).toUInt8,
      (0x80 + n / 64 % 64).toUInt8, (0x80 + n % 64).toUInt8]

/-- The bytes of a text. -/
def encode (s : String) : List UInt8 := s.toList.flatMap encodeChar

/-- How many continuation bytes follow a lead byte. -/
def continuationCount (b : UInt8) : Option Nat :=
  if b < 0x80 then some 0
  else if 0xC2 ≤ b ∧ b ≤ 0xDF then some 1
  else if 0xE0 ≤ b ∧ b ≤ 0xEF then some 2
  else if 0xF0 ≤ b ∧ b ≤ 0xF4 then some 3
  else none

/-- Whether `c` may stand as continuation byte number `i` after `lead`. -/
def continues (lead : UInt8) (i : Nat) (c : UInt8) : Bool :=
  if i = 0 then
    if lead = 0xE0 then 0xA0 ≤ c && c ≤ 0xBF
    else if lead = 0xED then 0x80 ≤ c && c ≤ 0x9F
    else if lead = 0xF0 then 0x90 ≤ c && c ≤ 0xBF
    else if lead = 0xF4 then 0x80 ≤ c && c ≤ 0x8F
    else 0x80 ≤ c && c ≤ 0xBF
  else 0x80 ≤ c && c ≤ 0xBF

/-- How many of the bytes `bs` continue a sequence after `lead`, at most `need`. -/
def validContinuations (lead : UInt8) (need : Nat) : Nat → List UInt8 → Nat
  | i, [] => i
  | i, c :: cs => if i < need && continues lead i c then validContinuations lead need (i + 1) cs else i

/-- The code point of a well-formed sequence. -/
def codePoint (lead : UInt8) (conts : List UInt8) : Nat :=
  let payload := match conts.length with
    | 0 => lead.toNat
    | 1 => lead.toNat % 32
    | 2 => lead.toNat % 16
    | _ => lead.toNat % 8
  conts.foldl (fun acc c => acc * 64 + c.toNat % 64) payload

/-- Why a sequence is bad. -/
inductive Fault where
  /-- The byte cannot begin a sequence. -/
  | invalidStart
  /-- A byte that should continue the sequence does not. -/
  | invalidContinuation
  /-- The bytes ran out inside the sequence. -/
  | unexpectedEnd
  deriving DecidableEq, Repr

/-- The reason as a decoder states it. -/
def Fault.text : Fault → String
  | .invalidStart => "invalid start byte"
  | .invalidContinuation => "invalid continuation byte"
  | .unexpectedEnd => "unexpected end of data"

/-- One step of decoding: a code point, or a maximal subpart and its fault. -/
inductive Step where
  | char (c : Char) (length : Nat)
  | bad (length : Nat) (fault : Fault)
  deriving Repr

/-- Read one sequence from a non-empty byte list. -/
def step (b : UInt8) (rest : List UInt8) : Step :=
  match continuationCount b with
  | none => .bad 1 .invalidStart
  | some need =>
    let v := validContinuations b need 0 rest
    if v = need then .char (Char.ofNat (codePoint b (rest.take need))) (need + 1)
    else if v = rest.length then .bad (v + 1) .unexpectedEnd
    else .bad (v + 1) .invalidContinuation

theorem validContinuations_le (lead : UInt8) (need : Nat) :
    ∀ (i : Nat) (bs : List UInt8), validContinuations lead need i bs ≤ i + bs.length
  | i, [] => by simp [validContinuations]
  | i, c :: cs => by
    simp only [validContinuations]
    split
    · have := validContinuations_le lead need (i + 1) cs
      simp only [List.length_cons]; omega
    · omega

/-- The length of a step, whatever it read. -/
def Step.length : Step → Nat
  | .char _ n => n
  | .bad n _ => n

/-- A step takes at least one byte and no more than there are. -/
theorem step_length_pos (b : UInt8) (rest : List UInt8) :
    1 ≤ (step b rest).length ∧ (step b rest).length ≤ rest.length + 1 := by
  unfold step
  cases continuationCount b with
  | none => simp [Step.length]
  | some need =>
    have h := validContinuations_le b need 0 rest
    dsimp only
    by_cases h1 : validContinuations b need 0 rest = need
    · rw [if_pos h1]; simp only [Step.length]; omega
    · rw [if_neg h1]
      by_cases h2 : validContinuations b need 0 rest = rest.length
      · rw [if_pos h2]; simp only [Step.length]; omega
      · rw [if_neg h2]; simp only [Step.length]; omega

/-- Decode, writing U+FFFD for each maximal subpart of a bad sequence. -/
def decodeReplacing (bs : List UInt8) : List Char :=
  match bs with
  | [] => []
  | b :: rest =>
    have _h := step_length_pos b rest
    match _hs : step b rest with
    | .char c n => c :: decodeReplacing ((b :: rest).drop n)
    | .bad n _ => '�' :: decodeReplacing ((b :: rest).drop n)
termination_by bs.length
decreasing_by
  all_goals simp only [_hs, Step.length] at _h; simp only [List.length_drop, List.length_cons]; omega

/-- The first bad sequence met by strict decoding. -/
structure Malformed where
  position : Nat
  length : Nat
  byte : UInt8
  fault : Fault
  deriving Repr

/-- Two lowercase hexadecimal digits. -/
def hexByte (b : UInt8) : String :=
  let d (n : Nat) : Char := if n < 10 then Char.ofNat (48 + n) else Char.ofNat (87 + n)
  String.ofList [d (b.toNat / 16), d (b.toNat % 16)]

/-- The message of a decoding failure, naming the codec. -/
def Malformed.message (m : Malformed) : String :=
  if m.length = 1 then
    s!"'utf-8' codec can't decode byte 0x{hexByte m.byte} in position {m.position}: {m.fault.text}"
  else
    s!"'utf-8' codec can't decode bytes in position {m.position}-{m.position + m.length - 1}: {m.fault.text}"

/-- Decode strictly from byte offset `pos`, stopping at the first bad sequence. -/
def decodeFrom (pos : Nat) (acc : List Char) (bs : List UInt8) : Except Malformed (List Char) :=
  match bs with
  | [] => .ok acc.reverse
  | b :: rest =>
    have _h := step_length_pos b rest
    match _hs : step b rest with
    | .char c n => decodeFrom (pos + n) (c :: acc) ((b :: rest).drop n)
    | .bad n f => .error ⟨pos, n, b, f⟩
termination_by bs.length
decreasing_by simp only [_hs, Step.length] at _h; simp only [List.length_drop, List.length_cons]; omega

/-- Decode strictly: the text, or the first bad sequence. -/
def decode (bs : List UInt8) : Except Malformed String :=
  (decodeFrom 0 [] bs).map String.ofList

/-- The surrogate an encoded surrogate at the head of the bytes stands for. -/
def encodedSurrogate? : List UInt8 → Option (Fin 2048)
  | 0xED :: b :: c :: _ =>
    if 0xA0 ≤ b && b ≤ 0xBF && 0x80 ≤ c && c ≤ 0xBF then
      some ⟨((b.toNat - 0xA0) * 64 + (c.toNat - 0x80)) % 2048, Nat.mod_lt _ (by decide)⟩
    else none
  | _ => none


/-- Decode from byte offset `pos`, letting encoded surrogates through. -/
def decodeLenientFrom (pos : Nat) (acc : List Point) (bs : List UInt8) :
    Except Malformed (List Point) :=
  match bs with
  | [] => .ok acc.reverse
  | b :: rest =>
    have _h := step_length_pos b rest
    match _hs : step b rest with
    | .char c n => decodeLenientFrom (pos + n) (.char c :: acc) ((b :: rest).drop n)
    | .bad n f =>
      match _he : encodedSurrogate? (b :: rest) with
      | some k => decodeLenientFrom (pos + 3) (.surrogate k :: acc) ((b :: rest).drop 3)
      | none => .error ⟨pos, n, b, f⟩
termination_by bs.length
decreasing_by
  · simp only [_hs, Step.length] at _h; simp only [List.length_drop, List.length_cons]; omega
  · simp only [List.length_drop, List.length_cons]; omega

/-- Decode, letting encoded surrogates through as lone surrogates. -/
def decodeLenient (bs : List UInt8) : Except Malformed Text :=
  (decodeLenientFrom 0 [] bs).map Text.mk

/-- The first run of lone surrogates in a text, which UTF-8 cannot encode. -/
structure Unencodable where
  position : Nat
  surrogates : List (Fin 2048)
  deriving DecidableEq

/-- Four lowercase hexadecimal digits. -/
def hex4 (n : Nat) : String :=
  let d (k : Nat) : Char := if k < 10 then Char.ofNat (48 + k) else Char.ofNat (87 + k)
  String.ofList [d (n / 4096 % 16), d (n / 256 % 16), d (n / 16 % 16), d (n % 16)]

/-- The message of a refused encoding, naming the codec. -/
def Unencodable.message (u : Unencodable) : String :=
  match u.surrogates with
  | [k] =>
    s!"'utf-8' codec can't encode character '\\u{hex4 (0xD800 + k.val)}' in position {u.position}: surrogates not allowed"
  | ks =>
    s!"'utf-8' codec can't encode characters in position {u.position}-{u.position + ks.length - 1}: surrogates not allowed"

/-- The bytes of a text, or its first run of lone surrogates. -/
def encodeText (t : Text) : Except Unencodable (List UInt8) :=
  let chars := t.points.takeWhile (!·.isSurrogate)
  if chars.length = t.points.length then
    .ok (chars.flatMap fun
      | .char c => encodeChar c
      | .surrogate _ => [])
  else
    let run := ((t.points.drop chars.length).takeWhile (·.isSurrogate)).filterMap fun
      | .surrogate k => some k
      | .char _ => none
    .error ⟨chars.length, run⟩

/-- The string of a text that UTF-8 can encode, or its first run of lone surrogates. -/
def encodable (t : Text) : Except Unencodable String :=
  (encodeText t).map fun _ => t.lossy

theorem encodeText_ofString (s : String) : encodeText (Text.ofString s) = .ok (encode s) := by
  have h1 : ∀ cs : List Char, (cs.map Point.char).takeWhile (!·.isSurrogate) = cs.map Point.char := by
    intro cs
    induction cs with
    | nil => rfl
    | cons c cs ih => rw [List.map_cons, List.takeWhile_cons_of_pos (by rfl), ih]
  have h2 : ∀ cs : List Char, ((cs.map Point.char).flatMap fun
      | .char c => encodeChar c
      | .surrogate _ => []) = cs.flatMap encodeChar := by
    intro cs
    induction cs with
    | nil => rfl
    | cons c cs ih => simp [ih]
  simp only [encodeText, Text.ofString, h1, if_pos, h2]
  rfl

end Utf8

end DocClient
