/-!
Punycode (RFC 3492): the basic characters, then each other code point's places as numbers
in base 36 with an adapting bias.
-/
namespace DocClient

namespace Punycode

/-- The threshold of the digit at place `k`. -/
def threshold (k bias : Nat) : Nat :=
  if k ≤ bias then 1 else if bias + 26 ≤ k then 26 else k - bias

theorem threshold_pos (k bias : Nat) : 1 ≤ threshold k bias := by
  unfold threshold
  split
  · omega
  · split <;> omega

theorem threshold_le (k bias : Nat) : threshold k bias ≤ 26 := by
  unfold threshold
  split
  · omega
  · split <;> omega

/-- Divide `delta` by 35 until it is at most 455, counting 36 for each division. -/
def adaptLoop (delta k : Nat) : Nat × Nat :=
  if 455 < delta then adaptLoop (delta / 35) (k + 36) else (delta, k)
termination_by delta
decreasing_by exact Nat.div_lt_self (by omega) (by omega)

/-- The bias after a number `delta`, with `points` code points placed. -/
def adapt (delta points : Nat) (first : Bool) : Nat :=
  let d := if first then delta / 700 else delta / 2
  let r := adaptLoop (d + d / points) 0
  r.2 + 36 * r.1 / (r.1 + 38)

/-- The digit of a value: `a` to `z` for 0 to 25, `0` to `9` for 26 to 35. -/
def digitChar (d : Nat) : Char :=
  if d < 26 then Char.ofNat (0x61 + d) else Char.ofNat (0x30 + d - 26)

/-- The value of a digit, in either case. -/
def digitValue? (c : Char) : Option Nat :=
  let n := c.toNat
  if 0x61 ≤ n && n ≤ 0x7A then some (n - 0x61)
  else if 0x41 ≤ n && n ≤ 0x5A then some (n - 0x41)
  else if 0x30 ≤ n && n ≤ 0x39 then some (n - 0x30 + 26)
  else none

theorem digitValue?_digitChar {d : Nat} (h : d < 36) : digitValue? (digitChar d) = some d := by
  have hall : ∀ e ∈ List.range 36, digitValue? (digitChar e) = some e := by decide
  exact hall d (List.mem_range.mpr h)

/-- The digits of a number `q`, from place `k` on. -/
def encodeNumber (bias k q : Nat) : List Char :=
  let t := threshold k bias
  if q < t then [digitChar q]
  else digitChar (t + (q - t) % (36 - t)) :: encodeNumber bias (k + 36) ((q - t) / (36 - t))
termination_by q
decreasing_by
  have _h1 := threshold_pos k bias
  have _h2 := threshold_le k bias
  calc (q - threshold k bias) / (36 - threshold k bias)
      ≤ q - threshold k bias := Nat.div_le_self _ _
    _ < q := by omega

/-- Encoding under way: the digits written, the count, the bias and the points placed. -/
structure Encoder where
  out : List Char
  delta : Nat
  bias : Nat
  placed : Nat

/-- Pass one character while placing the code point `m`. -/
def Encoder.visit (basics m : Nat) (e : Encoder) (c : Char) : Encoder :=
  if c.toNat < m then { e with delta := e.delta + 1 }
  else if c.toNat = m then
    { out := e.out ++ encodeNumber e.bias 36 e.delta, delta := 0,
      bias := adapt e.delta (e.placed + 1) (e.placed == basics), placed := e.placed + 1 }
  else e

/-- Place the code points `ms`, in increasing order, the last placed being below `n`. -/
def encodeFrom (text : List Char) (basics : Nat) : List Nat → Nat → Encoder → Encoder
  | [], _, e => e
  | m :: rest, n, e =>
    let e := text.foldl (Encoder.visit basics m) { e with delta := e.delta + (m - n) * (e.placed + 1) }
    encodeFrom text basics rest (m + 1) { e with delta := e.delta + 1 }

/-- The code points of a text that are not basic, each once, in increasing order. -/
def extended (text : List Char) : List Nat :=
  ((text.filter (0x80 ≤ ·.toNat)).map Char.toNat |>.mergeSort (· ≤ ·)).eraseDups

/-- The Punycode form of a text. -/
def encode (text : List Char) : List Char :=
  let basic := text.filter (·.toNat < 0x80)
  let e := encodeFrom text basic.length (extended text) 0x80
    { out := [], delta := 0, bias := 72, placed := basic.length }
  basic ++ (if basic.isEmpty then [] else ['-']) ++ e.out

/-- Read one number of a Punycode text. -/
def decodeNumber (bias : Nat) : List Char → Nat → Nat → Nat → Option (Nat × List Char)
  | [], _, _, _ => none
  | c :: rest, k, w, i =>
    match digitValue? c with
    | none => none
    | some d =>
      if d < threshold k bias then some (i + d * w, rest)
      else decodeNumber bias rest (k + 36) (w * (36 - threshold k bias)) (i + d * w)

/-- Reading a number consumes at least one character. -/
theorem decodeNumber_length : ∀ (bias : Nat) (cs : List Char) (k w i : Nat)
    (r : Nat × List Char), decodeNumber bias cs k w i = some r → r.2.length < cs.length
  | _, [], _, _, _, _, h => by simp [decodeNumber] at h
  | bias, c :: rest, k, w, i, r, h => by
    rw [decodeNumber] at h
    split at h
    · simp at h
    · split at h
      · rw [← Option.some.inj h]; simp
      · have := decodeNumber_length bias rest (k + 36) _ _ r h
        simp; omega

/-- Insert the code points the numbers of a text place. -/
def decodeFrom (bias n i : Nat) (first : Bool) (out : List Nat) : List Char → Option (List Nat)
  | [] => some out
  | c :: rest =>
    match hd : decodeNumber bias (c :: rest) 36 1 i with
    | none => none
    | some (i', rem) =>
      let size := out.length + 1
      let n' := n + i' / size
      if 0x10FFFF < n' then none
      else
        let pos := i' % size
        decodeFrom (adapt (i' - i) size first) n' (pos + 1) false (out.insertIdx pos n') rem
termination_by cs => cs.length
decreasing_by
  have := decodeNumber_length bias (c :: rest) 36 1 i (i', rem) hd
  simpa using this

/-- The basic part and the numbers of a Punycode text. -/
def splitLastHyphen (text : List Char) : List Char × List Char :=
  match text.reverse.span (· != '-') with
  | (numbers, []) => ([], numbers.reverse)
  | (numbers, _ :: basic) => (basic.reverse, numbers.reverse)

/-- The text a Punycode text stands for. -/
def decode (text : List Char) : Option (List Char) :=
  let (basic, numbers) := splitLastHyphen text
  if basic.any (0x80 ≤ ·.toNat) then none
  else do
    let ns ← decodeFrom 72 0x80 0 true (basic.map Char.toNat) numbers
    ns.mapM fun n => if n.isValidChar then some (Char.ofNat n) else none

@[simp] theorem encode_nil : encode [] = [] := by
  simp [encode, encodeFrom, extended]

end Punycode

end DocClient
