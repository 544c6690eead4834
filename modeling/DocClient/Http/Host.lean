import DocClient.Text.Basic
/-!
Hosts of URLs: a host that looks like an IPv4 address must be one, and a host in brackets
must hold an IPv6 address.
-/
namespace DocClient

namespace Host

/-- The pieces of a text between the occurrences of a separator. -/
def pieces (sep : Char) (cs : List Char) : List (List Char) := cs.splitOn sep

/-- Whether a host looks like an IPv4 address: four runs of ASCII digits joined by dots. -/
def looksIpv4 (cs : List Char) : Bool :=
  let ps := pieces '.' cs
  ps.length == 4 && ps.all fun p => !p.isEmpty && p.all Char.isDigit

/-- Whether a piece is an IPv4 octet. -/
def isOctet (p : List Char) : Bool :=
  !p.isEmpty && p.all Char.isDigit && p.length ≤ 3 && (p == ['0'] || p.head? != some '0') &&
    p.foldl (fun n c => 10 * n + (c.toNat - 48)) 0 ≤ 255

/-- Whether a text is an IPv4 address. -/
def isIpv4 (cs : List Char) : Bool :=
  let ps := pieces '.' cs
  ps.length == 4 && ps.all isOctet

/-- Whether a character is an ASCII hexadecimal digit. -/
def isHexDigit (c : Char) : Bool :=
  c.isDigit || ('a' ≤ c && c ≤ 'f') || ('A' ≤ c && c ≤ 'F')

/-- Whether a piece is an IPv6 group: one to four hexadecimal digits. -/
def isGroup (p : List Char) : Bool := !p.isEmpty && p.length ≤ 4 && p.all isHexDigit

/-- The places of the empty groups other than the first and the last. -/
def innerGaps (ps : List (List Char)) : List Nat :=
  ((List.range ps.length).zip ps).filterMap fun (i, p) =>
    if 0 < i && i + 1 < ps.length && p.isEmpty then some i else none

/-- Whether groups, an IPv4 ending already counted as two, make an IPv6 address. -/
def groupsFit (ps : List (List Char)) : Bool :=
  let n := ps.length
  if 9 < n then false
  else
    match innerGaps ps with
    | [] => n == 8 && ps.all isGroup
    | [g] =>
      let hi := if ps.head?.any List.isEmpty then g - 1 else g
      let lo := if ps.getLast?.any List.isEmpty then n - g - 2 else n - g - 1
      let leadOk := !(ps.head?.any List.isEmpty) || g == 1
      let trailOk := !(ps.getLast?.any List.isEmpty) || g + 2 == n
      leadOk && trailOk && hi + lo < 8 &&
        ((ps.take g).drop (g - hi)).all isGroup && (ps.drop (n - lo)).all isGroup
    | _ => false

/-- Whether a text is an IPv6 address, with an optional zone. -/
def isIpv6 (cs : List Char) : Bool :=
  if cs.contains '/' then false
  else
    let addr := cs.takeWhile (· != '%')
    let zone := cs.drop (addr.length + 1)
    if addr.length < cs.length && (zone.isEmpty || zone.contains '%') then false
    else if addr.isEmpty then false
    else
      let ps := pieces ':' addr
      if ps.length < 3 then false
      else
        match ps.getLast? with
        | some last =>
          if last.contains '.' then isIpv4 last && groupsFit (ps.dropLast ++ [['0'], ['0']])
          else groupsFit ps
        | none => false

end Host

end DocClient
