import DocClient.Binary64
/-!
The shortest decimal text of a binary64 number: the fewest digits that read back, nearest
of those, laid out by a `Layout`. Every comparison is exact `Nat` arithmetic.
-/
namespace DocClient

namespace Decimal

/-- Compare `a * 10 ^ e` with `b * 2 ^ f` exactly. -/
def compareScaled (a : Nat) (e : Int) (b : Nat) (f : Int) : Ordering :=
  compare (a * Nat.pow 10 e.toNat * Nat.pow 2 (-f).toNat) (b * Nat.pow 2 f.toNat * Nat.pow 10 (-e).toNat)

/-- The exponent of the leading decimal digit of `n / d`. -/
def leadExponent (n d : Nat) : Int :=
  if d ≤ n then (Binary64.digitCount (n / d) : Int) - 1
  else
    let s₀ := Binary64.digitCount (d / n) - 1
    if d ≤ n * Nat.pow 10 s₀ then -(s₀ : Int) else -((s₀ + 1 : Nat) : Int)

/-- Drop trailing zero digits, raising the exponent to match. -/
def stripZeros (c : Nat) (e : Int) : Nat × Int :=
  if h : 0 < c ∧ c % 10 = 0 then stripZeros (c / 10) (e + 1) else (c, e)
termination_by c
decreasing_by exact Nat.div_lt_self h.1 (by decide)

/-- The interval of reals that round to `m * 2 ^ q`, scaled, with whether its ends belong. -/
structure Rounding where
  low : Nat
  high : Nat
  closed : Bool

/-- The rounding interval of the positive finite value `m * 2 ^ q`. -/
def rounding (m : Nat) (q : Int) : Rounding :=
  let gap := if m = Nat.pow 2 52 ∧ -1074 < q then 1 else 2
  ⟨4 * m - gap, 4 * m + 2, m % 2 == 0⟩

/-- Whether `c * 10 ^ e` reads back to `m * 2 ^ q`. -/
def readsBack (m : Nat) (q : Int) (c : Nat) (e : Int) : Bool :=
  let r := rounding m q
  let lo := compareScaled c e r.low (q - 2)
  let hi := compareScaled c e r.high (q - 2)
  if r.closed then lo != .lt && hi != .gt else lo == .gt && hi == .lt

/-- Of the two grid points around the value, the one that reads back, nearer, or even. -/
def pickOnGrid (m : Nat) (q : Int) (c : Nat) (e : Int) : Option Nat :=
  match readsBack m q c e, readsBack m q (c + 1) e with
  | true, true =>
    match compareScaled (2 * c + 1) e (2 * m) q with
    | .gt => some c
    | .lt => some (c + 1)
    | .eq => some (if c % 2 = 0 then c else c + 1)
  | true, false => some c
  | false, true => some (c + 1)
  | false, false => none

/-- Search grids of `n + 1`, `n + 2`, … significant digits, at most `fuel` of them. -/
def searchDigits (m : Nat) (q : Int) (lead : Int) : Nat → Nat → Nat × Int
  | 0, _ => (m, q)
  | fuel + 1, n =>
    let e := lead - (n : Int)
    let num := m * Nat.pow 2 q.toNat * Nat.pow 10 (-e).toNat
    let den := Nat.pow 2 (-q).toNat * Nat.pow 10 e.toNat
    match pickOnGrid m q (num / den) e with
    | some c => stripZeros c e
    | none => searchDigits m q lead fuel (n + 1)

/-- The shortest decimal `c * 10 ^ e` that reads back to `m * 2 ^ q`. -/
def shortest (m : Nat) (q : Int) : Nat × Int :=
  let lead := leadExponent (m * Nat.pow 2 q.toNat) (Nat.pow 2 (-q).toNat)
  searchDigits m q lead 17 0

/-- How a printer lays out a finite decimal: positional or with an exponent. -/
structure Layout where
  pointLow : Int
  pointHigh : Int
  mark : String
  signedExponent : Bool
  exponentWidth : Nat
  pointZero : Bool

/-- The decimal digits of a natural number. -/
def digits (n : Nat) : String := String.ofList (Nat.toDigits 10 n)

/-- Left-pad with zeros to a width. -/
def padZeros (w : Nat) (s : String) : String :=
  String.ofList (List.replicate (w - s.length) '0') ++ s

/-- Lay out the digits `ds` of a decimal whose point stands after `point` digits. -/
def layoutDigits (l : Layout) (ds : String) (point : Int) : String :=
  let n := ds.length
  if l.pointLow ≤ point ∧ point ≤ l.pointHigh then
    if point ≤ 0 then "0." ++ String.ofList (List.replicate (-point).toNat '0') ++ ds
    else if point < n then
      String.ofList (ds.toList.take point.toNat) ++ "." ++ String.ofList (ds.toList.drop point.toNat)
    else
      ds ++ String.ofList (List.replicate (point.toNat - n) '0') ++ (if l.pointZero then ".0" else "")
  else
    let x := point - 1
    let head := String.ofList (ds.toList.take 1)
    let tail := String.ofList (ds.toList.drop 1)
    let mantissa := if tail.isEmpty then head else head ++ "." ++ tail
    let sign := if x < 0 then "-" else if l.signedExponent then "+" else ""
    mantissa ++ l.mark ++ sign ++ padZeros l.exponentWidth (digits x.natAbs)

/-- The text of a finite number under a layout; zero keeps its sign. -/
def render (l : Layout) (x : Binary64) : String :=
  let sign := if x.negative then "-" else ""
  if x.isZero then sign ++ layoutDigits l "0" 1
  else
    let r := shortest x.significand x.exponent
    let ds := digits r.1
    sign ++ layoutDigits l ds ((ds.length : Int) + r.2)

end Decimal

end DocClient
