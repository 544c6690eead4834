import DocClient.Binary64
import DocClient.Text.Basic
import DocClient.Text.Blank
/-!
Reading decimal texts as numbers, the nearest binary64, with underscores between digits
where allowed. Digits of any script and blanks beyond ASCII are first brought to ASCII.
-/
namespace DocClient

namespace Decimal

/-- Split off a run of digits, with single underscores between digits when allowed. -/
def spanDigitRun (underscores : Bool) : List Char → List Char × List Char
  | c :: '_' :: d :: more =>
    if c.isDigit then
      if underscores && d.isDigit then
        let r := spanDigitRun underscores (d :: more)
        (c :: r.1, r.2)
      else ([c], '_' :: d :: more)
    else ([], c :: '_' :: d :: more)
  | c :: rest =>
    if c.isDigit then
      let r := spanDigitRun underscores rest
      (c :: r.1, r.2)
    else ([], c :: rest)
  | [] => ([], [])

/-- The natural number of a list of digits. -/
def digitListValue (ds : List Char) : Nat :=
  ds.foldl (fun n d => n * 10 + (d.toNat - 48)) 0

/-- Lowercase ASCII letters. -/
def lowerAscii (cs : List Char) : List Char :=
  cs.map fun c => if 'A' ≤ c ∧ c ≤ 'Z' then Char.ofNat (c.toNat + 32) else c

/-- Read an unsigned number text: a word or a decimal with optional exponent. -/
def readUnsigned (underscores : Bool) (neg : Bool) (cs : List Char) : Option Binary64 :=
  let w := lowerAscii cs
  if w = "inf".toList ∨ w = "infinity".toList then some (Binary64.infinity neg)
  else if w = "nan".toList then some Binary64.nan
  else
    let (whole, r₁) := spanDigitRun underscores cs
    let (frac, r₂) : List Char × List Char := match r₁ with
      | '.' :: r => spanDigitRun underscores r
      | _ => ([], r₁)
    let pointed := match r₁ with
      | '.' :: _ => true
      | _ => false
    if whole.isEmpty ∧ frac.isEmpty then none
    else if !pointed ∧ !frac.isEmpty then none
    else
      let expo : Option Int := match r₂ with
        | [] => some 0
        | m :: r =>
          if m = 'e' ∨ m = 'E' then
            let (eneg, r') := match r with
              | '-' :: r' => (true, r')
              | '+' :: r' => (false, r')
              | r' => (false, r')
            let (ds, rest) := spanDigitRun underscores r'
            if ds.isEmpty ∨ !rest.isEmpty then none
            else some (if eneg then -(digitListValue ds : Int) else digitListValue ds)
          else none
      match expo with
      | none => none
      | some e => some (Binary64.ofScientific neg (digitListValue (whole ++ frac)) (e - frac.length))

/-- Read a number text with an optional sign. -/
def readFloat (underscores : Bool) (cs : List Char) : Option Binary64 :=
  match cs with
  | '-' :: r => readUnsigned underscores true r
  | '+' :: r => readUnsigned underscores false r
  | r => readUnsigned underscores false r

/-- Read an integer text: an optional sign and at least one digit. -/
def readInt (cs : List Char) : Option Int :=
  let (neg, r) : Bool × List Char := match cs with
    | '-' :: r => (true, r)
    | '+' :: r => (false, r)
    | r => (false, r)
  if r.isEmpty ∨ !r.all Char.isDigit then none
  else
    let n : Int := digitListValue r
    some (if neg then -n else n)

/-- A text without its underscores, unless one starts or ends it or two stand together. -/
def dropUnderscores (cs : List Char) : Option (List Char) :=
  if cs.head? = some '_' ∨ cs.getLast? = some '_' ∨ (cs.zip (cs.drop 1)).any (· = ('_', '_')) then none
  else some (cs.filter (· ≠ '_'))

/-- An integer text: an optional sign, then digits with single underscores between them. -/
def readGroupedInt (cs : List Char) : Option Int :=
  let (neg, r) : Bool × List Char := match cs with
    | '-' :: r => (true, r)
    | '+' :: r => (false, r)
    | r => (false, r)
  if !(r.head?.any Char.isDigit) then none
  else (dropUnderscores r).bind fun ds => (Decimal.readInt ds).map fun n => if neg then -n else n

end Decimal

/-! ### Digits of every script

Each script's digits come as a run of ten consecutive code points from zero to nine, so the
table lists the zero of each run. -/

namespace Digit

/-- The zero of every run of ten decimal digits, in increasing order. -/
def zeros : List Nat :=
  [0x0030, 0x0660, 0x06F0, 0x07C0, 0x0966, 0x09E6, 0x0A66, 0x0AE6, 0x0B66, 0x0BE6, 0x0C66, 0x0CE6,
   0x0D66, 0x0DE6, 0x0E50, 0x0ED0, 0x0F20, 0x1040, 0x1090, 0x17E0, 0x1810, 0x1946, 0x19D0, 0x1A80,
   0x1A90, 0x1B50, 0x1BB0, 0x1C40, 0x1C50, 0xA620, 0xA8D0, 0xA900, 0xA9D0, 0xA9F0, 0xAA50, 0xABF0,
   0xFF10, 0x104A0, 0x10D30, 0x11066, 0x110F0, 0x11136, 0x111D0, 0x112F0, 0x11450, 0x114D0,
   0x11650, 0x116C0, 0x11730, 0x118E0, 0x11950, 0x11C50, 0x11D50, 0x11DA0, 0x16A60, 0x16AC0,
   0x16B50, 0x1D7CE, 0x1D7D8, 0x1D7E2, 0x1D7EC, 0x1D7F6, 0x1E140, 0x1E2F0, 0x1E950, 0x1FBF0]

/-- The value of a decimal digit of any script. -/
def value? (c : Char) : Option Nat :=
  let n := c.toNat
  (zeros.find? fun z => z ≤ n && n < z + 10).map fun z => n - z

/-- The ASCII digit with the same value as a decimal digit of any script. -/
def asciiDigit? (c : Char) : Option Char :=
  (value? c).map fun d => Char.ofNat (48 + d)

/-- Later runs start past the end of earlier ones. -/
theorem zeros_apart : zeros.Pairwise (fun z z' => z + 10 ≤ z') := by decide +kernel

/-- No run reaches the surrogates or past the last code point. -/
theorem zeros_valid : ∀ z ∈ zeros, (z + 9 < 0xD800 ∨ 0xDFFF < z) ∧ z + 9 < 0x110000 := by
  decide +kernel

theorem find?_run : ∀ {zs : List Nat}, zs.Pairwise (fun z z' => z + 10 ≤ z') → ∀ {z d : Nat},
    z ∈ zs → d < 10 → zs.find? (fun z' => z' ≤ z + d && z + d < z' + 10) = some z
  | [], _, _, _, hz, _ => absurd hz List.not_mem_nil
  | y :: ys, hp, z, d, hz, hd => by
    rw [List.pairwise_cons] at hp
    rw [List.find?_cons]
    rcases List.mem_cons.mp hz with rfl | hz
    · simp [hd]
    · have hyz := hp.1 z hz
      have hmiss : (y ≤ z + d && z + d < y + 10) = false := by simp; omega
      rw [hmiss]
      exact find?_run hp.2 hz hd

/-- The `d`-th digit of every run has the value `d`. -/
theorem value?_run {z d : Nat} (hz : z ∈ zeros) (hd : d < 10) :
    value? (Char.ofNat (z + d)) = some d := by
  have hchar : (Char.ofNat (z + d)).toNat = z + d := by
    have hv : (z + d).isValidChar := by
      have := zeros_valid z hz
      simp only [Nat.isValidChar]
      omega
    rw [Char.ofNat, dif_pos hv]
    rfl
  simp only [value?, hchar, find?_run zeros_apart hz hd, Option.map_some, Nat.add_sub_cancel_left]

example : asciiDigit? '\u0663' = some '3' := by decide

end Digit

/-! ### Numerals

Every character below DEL stands for itself; any other character that is neither a blank
nor a digit, a lone surrogate included, leaves the text unreadable. The ASCII blanks around
the result are dropped. The information separators U+001C to U+001F and DEL are no blanks
here, so a text holding one is never a numeral. -/

namespace Numeral

/-- The ASCII character a point is read as, if any. -/
def asciiChar? : Point → Option Char
  | .char c =>
    if c.toNat < 127 then some c
    else if Blank.isSpace c then some ' '
    else Digit.asciiDigit? c
  | .surrogate _ => none

/-- The ASCII form of a numeral, without the blanks around it. -/
def asciiForm? (t : Text) : Option (List Char) := do
  let cs ← t.points.mapM asciiChar?
  pure (Blank.trimBy Blank.isAsciiBlankChar cs)

/-- Read an integer numeral. -/
def readInt? (t : Text) : Option Int := (asciiForm? t).bind Decimal.readGroupedInt

/-- Read a decimal numeral as the nearest binary64. -/
def readFloat? (t : Text) : Option Binary64 := (asciiForm? t).bind (Decimal.readFloat true)

theorem asciiChar?_ascii (c : Char) (h : c.toNat < 127) : asciiChar? (.char c) = some c := by
  simp [asciiChar?, h]

end Numeral

end DocClient
