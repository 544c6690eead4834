import DocClient.Text.Utf8
import DocClient.Http.Host
import DocClient.Decimal.Read
import DocClient.Value.Text
import DocClient.Text.Case
import DocClient.Idna.Label
/-!
URLs as an HTTP client reads them, with their parts put in canonical form and
percent-encoded; a client's base joined with a request path; and queries read as pairs.
-/
namespace DocClient

/-! ### Percent-encoding of path segments

Every byte of the UTF-8 form is written as `%` and two uppercase hexadecimal digits, except
the unreserved characters: ASCII letters and digits and `_ . - ~`. A slash is encoded too, so
a segment never splits a path. -/

namespace Percent

/-- The bytes that stand for themselves. -/
def isUnreserved (b : UInt8) : Bool :=
  (48 ≤ b && b ≤ 57) || (65 ≤ b && b ≤ 90) || (97 ≤ b && b ≤ 122) ||
    b == 95 || b == 46 || b == 45 || b == 126

/-- An uppercase hexadecimal digit. -/
def hexDigit (n : Nat) : Char :=
  if n < 10 then Char.ofNat (48 + n) else Char.ofNat (55 + n)

/-- The text of one byte. -/
def encodeByte (b : UInt8) : List Char :=
  if isUnreserved b then [Char.ofNat b.toNat]
  else ['%', hexDigit (b.toNat / 16), hexDigit (b.toNat % 16)]

/-- Percent-encode one segment. -/
def encodeSegment (s : String) : String :=
  String.ofList ((Utf8.encode s).flatMap encodeByte)

/-- Join encoded segments with slashes. -/
def joinSegments (segs : List String) : String :=
  "/".intercalate (segs.map encodeSegment)

theorem encodeByte_unreserved (b : UInt8) (h : isUnreserved b = true) :
    encodeByte b = [Char.ofNat b.toNat] := by
  simp [encodeByte, h]

end Percent

/-! ### Base64

Every three bytes become four characters of the alphabet `A-Z a-z 0-9 + /`, and a last group
of one or two bytes is padded with `=` to four characters. -/

namespace Base64

/-- The character of a six-bit value. -/
def symbol (n : Nat) : Char :=
  if n < 26 then Char.ofNat (65 + n)
  else if n < 52 then Char.ofNat (71 + n)
  else if n < 62 then Char.ofNat (n - 4)
  else if n = 62 then '+' else '/'

/-- Encode bytes. -/
def encode : List UInt8 → List Char
  | a :: b :: c :: rest =>
    let n := a.toNat * 65536 + b.toNat * 256 + c.toNat
    symbol (n / 262144) :: symbol (n / 4096 % 64) :: symbol (n / 64 % 64) :: symbol (n % 64) ::
      encode rest
  | [a, b] =>
    let n := a.toNat * 65536 + b.toNat * 256
    [symbol (n / 262144), symbol (n / 4096 % 64), symbol (n / 64 % 64), '=']
  | [a] =>
    let n := a.toNat * 65536
    [symbol (n / 262144), symbol (n / 4096 % 64), '=', '=']
  | [] => []

theorem encode_length (bs : List UInt8) (h : bs.length % 3 = 0) :
    (encode bs).length = bs.length / 3 * 4 := by
  induction bs using encode.induct with
  | case1 a b c rest ih =>
    simp only [encode, List.length_cons] at *
    have := ih (by omega)
    omega
  | case2 => simp at h
  | case3 => simp at h
  | case4 => rfl

end Base64

/-! ### URLs -/

/-- A URL in canonical form. -/
structure Url where
  scheme : String := ""
  /-- The user information before `@`, percent-encoded; empty when there is none. -/
  userinfo : String := ""
  /-- The host in canonical form: an IPv6 address without its brackets. -/
  host : String := ""
  /-- The port, unless it is none or the scheme's default. -/
  port : Option Int := none
  path : String := ""
  query : Option String := none
  fragment : Option String := none
  deriving DecidableEq

namespace Url

/-- The characters every part keeps: ASCII letters and digits and `- . _ ~`. -/
def isUnreserved (c : Char) : Bool :=
  ('a' ≤ c && c ≤ 'z') || ('A' ≤ c && c ≤ 'Z') || ('0' ≤ c && c ≤ '9') ||
    c == '-' || c == '.' || c == '_' || c == '~'

/-- Printable ASCII characters outside the given ones. -/
def printableExcept (excluded : List Char) (c : Char) : Bool :=
  0x20 ≤ c.toNat && c.toNat < 0x7F && !excluded.contains c

/-- The characters a query keeps: printable ASCII except space, `"`, `#`, `<` and `>`. -/
def querySafe : Char → Bool := printableExcept [' ', '"', '#', '<', '>']

/-- The characters a path keeps. -/
def pathSafe : Char → Bool :=
  printableExcept [' ', '"', '#', '<', '>', '?', '\x60', '\x7b', '\x7d']

/-- The characters user information keeps: those a path keeps, except `/ ; = @ [ \ ] ^ |`. -/
def userinfoSafe : Char → Bool :=
  printableExcept [' ', '"', '#', '<', '>', '?', '\x60', '\x7b', '\x7d', '/', ';', '=', '@', '[', '\\', ']', '^', '|']

/-- The characters a fragment keeps. -/
def fragmentSafe : Char → Bool := printableExcept [' ', '"', '<', '>', '\x60']

/-- The characters a host name keeps. -/
def hostSafe (c : Char) : Bool := "!$&'()*+,;=\"%|\\\x60\x7b\x7d".toList.contains c

/-- Whether a character is a hexadecimal digit. -/
def isHexDigit (c : Char) : Bool :=
  ('0' ≤ c && c ≤ '9') || ('a' ≤ c && c ≤ 'f') || ('A' ≤ c && c ≤ 'F')

/-- The escapes of a character: `%XX` for each byte of its UTF-8 form. -/
def escapeChar (c : Char) : List Char :=
  (Utf8.encodeChar c).flatMap fun b =>
    ['%', Percent.hexDigit (b.toNat / 16), Percent.hexDigit (b.toNat % 16)]

/-- Whether a text starts with two hexadecimal digits. -/
def escapeFollows : List Char → Bool
  | a :: b :: _ => isHexDigit a && isHexDigit b
  | _ => false

/-- Percent-encode characters, keeping escapes and the characters `keep` allows. -/
def quoteChars (keep : Char → Bool) : List Char → List Char
  | [] => []
  | c :: rest =>
    (if (c = '%' && escapeFollows rest) || isUnreserved c || keep c then [c] else escapeChar c) ++
      quoteChars keep rest

theorem quoteChars_of_keep (keep : Char → Bool) :
    ∀ cs : List Char, (∀ c ∈ cs, keep c = true) → quoteChars keep cs = cs
  | [], _ => rfl
  | c :: rest, h => by
    have hc : keep c = true := h c (by simp)
    simp [quoteChars, hc, quoteChars_of_keep keep rest (fun d hd => h d (by simp [hd]))]

/-- Percent-encode a text. -/
def quote (keep : Char → Bool) (s : String) : String := String.ofList (quoteChars keep s.toList)

/-- A text of kept characters is its own percent-encoding. -/
theorem quote_of_keep (keep : Char → Bool) (s : String) (h : ∀ c ∈ s.toList, keep c = true) :
    quote keep s = s := by
  simp only [quote, quoteChars_of_keep keep s.toList h, String.ofList_toList]

/-- The value of a hexadecimal digit. -/
def hexValue (c : Char) : Option Nat :=
  if '0' ≤ c ∧ c ≤ '9' then some (c.toNat - 48)
  else if 'a' ≤ c ∧ c ≤ 'f' then some (c.toNat - 87)
  else if 'A' ≤ c ∧ c ≤ 'F' then some (c.toNat - 55)
  else none

/-- Decode escapes, each run read as UTF-8 with replacement. -/
def unquoteChars : List Char → List UInt8 → List Char
  | '%' :: a :: b :: rest, run =>
    match hexValue a, hexValue b with
    | some x, some y => unquoteChars rest (run ++ [UInt8.ofNat (x * 16 + y)])
    | _, _ => Utf8.decodeReplacing run ++ '%' :: unquoteChars (a :: b :: rest) []
  | c :: rest, run => Utf8.decodeReplacing run ++ c :: unquoteChars rest []
  | [], run => Utf8.decodeReplacing run

/-- Decode the escapes of a text. -/
def unquote (s : String) : String := String.ofList (unquoteChars s.toList [])

/-- A path without its dot segments. -/
def dropDotSegments (path : String) : String :=
  let parts := (path.toList.splitOn '/').map String.ofList
  if !(parts.contains "." || parts.contains "..") then path
  else
    let kept := parts.foldl (fun (out : List String) c =>
      if c = "." then out
      else if c = ".." then (if out.isEmpty || out = [""] then out else out.dropLast)
      else out ++ [c]) []
    "/".intercalate kept

/-- Split a text at the first occurrence of a character. -/
def splitAtFirst (sep : Char) (cs : List Char) : List Char × Option (List Char) :=
  match cs.span (· ≠ sep) with
  | (before, _ :: after) => (before, some after)
  | (before, []) => (before, none)

/-- Split points at the first occurrence of a character. -/
def splitPointsAt (sep : Char) (ps : List Point) : List Point × Option (List Point) :=
  match ps.span (· ≠ .char sep) with
  | (before, _ :: after) => (before, some after)
  | (before, []) => (before, none)

/-- Why a text is not a URL. -/
inductive Fault where
  | tooLong
  /-- An ASCII control character or DEL, and where it first stands. -/
  | nonPrintable (c : Char) (position : Nat)
  /-- A URL with neither scheme nor authority whose path starts with the given text. -/
  | relativePath (start : String)
  | ipv4 (host : Text)
  | ipv6 (host : Text)
  /-- A name beyond ASCII that is not an internationalised domain name. -/
  | idna (host : Text)
  | port (port : Text)
  | unencodable (u : Utf8.Unencodable)

/-- The message of a fault. -/
def Fault.message : Fault → String
  | .tooLong => "URL too long"
  | .nonPrintable c i =>
    let r := (Value.str (Text.single (.char c))).repr
    s!"Invalid non-printable ASCII character in URL, {r} at position {i}."
  | .relativePath start => s!"Relative URLs cannot have a path starting with '{start}'"
  | .ipv4 h => let r := (Value.str h).repr; s!"Invalid IPv4 address: {r}"
  | .ipv6 h => let r := (Value.str h).repr; s!"Invalid IPv6 address: {r}"
  | .idna h => let r := (Value.str h).repr; s!"Invalid IDNA hostname: {r}"
  | .port p => let r := (Value.str p).repr; s!"Invalid port: {r}"
  | .unencodable u => u.message

/-- The longest text a URL may be. -/
def maxLength : Nat := 65536

/-- Whether a point is an ASCII control character or DEL. -/
def isControl : Point → Bool
  | .char c => c.toNat < 0x20 || c.toNat == 0x7F
  | .surrogate _ => false

/-- The first ASCII control character or DEL of a text, with its place. -/
def firstControl (ps : List Point) : Option (Char × Nat) :=
  ((List.range ps.length).zip ps).findSome? fun (i, p) =>
    match p with
    | .char c => if isControl p then some (c, i) else none
    | .surrogate _ => none

/-- The string of a part, or its first lone surrogate. -/
def partString (t : Text) : Except Fault String :=
  match t.toString? with
  | some s => .ok s
  | none =>
    let first := t.points.findSome? fun
      | .surrogate k => some k
      | .char _ => none
    .error (.unencodable ⟨0, first.toList⟩)

/-- Percent-encode a part. -/
def quoteText (keep : Char → Bool) (t : Text) : Except Fault String :=
  (partString t).map (quote keep)

/-- Whether a character may follow the first letter of a scheme. -/
def isSchemeChar (c : Char) : Bool := c.isAlphanum || c == '+' || c == '.' || c == '-'

/-- The characters that start a list of points while a test holds. -/
def charsWhile (p : Char → Bool) : List Point → List Char
  | .char c :: rest => if p c then c :: charsWhile p rest else []
  | _ => []

/-- A scheme as written: a letter, then letters, digits, `+`, `.` and `-`. -/
def schemeRun : List Point → List Char
  | .char c :: rest => if c.isAlpha then c :: charsWhile isSchemeChar rest else []
  | _ => []

/-- The host and port of an authority after its user information. -/
def hostAndPort (ps : List Point) : List Point × List Point :=
  let (host, rest) :=
    if ps.head? = some (.char '[') && ps.contains (.char ']') then
      let tail := (ps.reverse.dropWhile (· ≠ .char ']')).reverse
      (tail, ps.drop tail.length)
    else
      let h := ps.takeWhile fun p => p != .char ':' && p != .char '@'
      (h, ps.drop h.length)
  match rest with
  | .char ':' :: port => (host, port)
  | port => (host, port)

/-- A host in canonical form. -/
def encodeHost (host : Text) : Except Fault String :=
  let cs := host.lossy.toList
  if cs.isEmpty then .ok ""
  else if Host.looksIpv4 cs then
    if Host.isIpv4 cs then .ok (String.ofList cs) else .error (.ipv4 host)
  else if cs.head? = some '[' && cs.getLast? = some ']' && 2 ≤ cs.length then
    let inner := (cs.drop 1).dropLast
    if Host.isIpv6 inner then .ok (String.ofList inner) else .error (.ipv6 host)
  else if cs.all (·.toNat < 128) then .ok (String.ofList (quoteChars hostSafe (cs.map Char.toLower)))
  else
    match host.toString? with
    | some s =>
      match Idna.toAscii? (Case.lower s.toList) with
      | some a => .ok a
      | none => .error (.idna host)
    | none => .error (.idna host)

/-- The default port of a scheme, as written. -/
def defaultPort (scheme : String) : Option Int :=
  if scheme = "http" || scheme = "ws" then some 80
  else if scheme = "https" || scheme = "wss" then some 443
  else if scheme = "ftp" then some 21
  else none

/-- A port: none when empty or the scheme's default, else an integer numeral. -/
def readPort (scheme : String) (port : Text) : Except Fault (Option Int) :=
  if port.isEmpty then .ok none
  else
    match Numeral.readInt? port with
    | none => .error (.port port)
    | some n => .ok (if defaultPort scheme = some n then none else some n)

/-- A path in canonical form. -/
def canonicalPath (absolute : Bool) (path : String) : String :=
  quote pathSafe (if absolute then dropDotSegments path else path)

/-- Read a URL. -/
def parse (t : Text) : Except Fault Url := do
  let ps := t.points
  if maxLength < ps.length then throw .tooLong
  if let some (c, i) := firstControl ps then throw (.nonPrintable c i)
  let sp := schemeRun ps
  let (scheme, rest) : List Char × List Point :=
    match ps.drop sp.length with
    | .char ':' :: r => (sp, r)
    | _ => ([], ps)
  let (authority, rest) : List Point × List Point :=
    match rest with
    | .char '/' :: .char '/' :: r =>
      let a := r.takeWhile fun p => p != .char '/' && p != .char '?' && p != .char '#'
      (a, r.drop a.length)
    | r => ([], r)
  let (beforeFragment, fragment) := splitPointsAt '#' rest
  let (path, query) := splitPointsAt '?' beforeFragment
  let (userinfo, hostPort) := match splitPointsAt '@' authority with
    | (u, some hp) => (u, hp)
    | (_, none) => ([], authority)
  let (host, port) := hostAndPort hostPort
  let userinfo ← quoteText userinfoSafe ⟨userinfo⟩
  let host ← encodeHost ⟨host⟩
  let port ← readPort (String.ofList scheme) ⟨port⟩
  let absolute := !scheme.isEmpty || !userinfo.isEmpty || !host.isEmpty || port.isSome
  if !absolute then
    if path.take 2 = [.char '/', .char '/'] then throw (.relativePath "//")
    if path.head? = some (.char ':') then throw (.relativePath ":")
  let path ← partString ⟨path⟩
  let query ← match query with
    | some q => some <$> quoteText querySafe ⟨q⟩
    | none => pure none
  let fragment ← match fragment with
    | some f => some <$> quoteText fragmentSafe ⟨f⟩
    | none => pure none
  pure { scheme := String.ofList (scheme.map Char.toLower), userinfo, host, port,
         path := canonicalPath absolute path, query, fragment }

/-- Whether a URL has a scheme or an authority. -/
def isAbsolute (u : Url) : Bool :=
  !u.scheme.isEmpty || !u.userinfo.isEmpty || !u.host.isEmpty || u.port.isSome

/-- The path and query as sent. -/
def rawPath (u : Url) : String :=
  (if u.path.isEmpty then "/" else u.path) ++ (match u.query with
    | some q => "?" ++ q
    | none => "")

/-- Replace the path and query by those a text gives. -/
def withRawPath (u : Url) (raw : String) : Url :=
  let (path, query) := splitAtFirst '?' raw.toList
  { u with path := canonicalPath u.isAbsolute (String.ofList path),
           query := query.map fun q => quote querySafe (String.ofList q) }

/-- The base URL of a client, ending with one slash. -/
def clientBase (t : Text) : Except Fault Url := do
  let trimmed := (t.points.reverse.dropWhile (· = .char '/')).reverse
  let u ← parse ⟨trimmed ++ [.char '/']⟩
  pure (if u.rawPath.endsWith "/" then u else u.withRawPath (u.rawPath ++ "/"))

/-- The URL a request path reaches from a base. -/
def join (base : Url) (path : String) : Url :=
  base.withRawPath (base.rawPath ++ String.ofList (path.toList.dropWhile (· = '/')))

/-- The authority as written in a URL. -/
def authority (u : Url) : String :=
  (if u.userinfo.isEmpty then "" else u.userinfo ++ "@") ++
    (if u.host.toList.contains ':' then "[" ++ u.host ++ "]" else u.host) ++
    (match u.port with
      | some p => ":" ++ toString p
      | none => "")

/-- The text of a URL. -/
def text (u : Url) : String :=
  (if u.scheme.isEmpty then "" else u.scheme ++ ":") ++
    (let a := u.authority; if a.isEmpty then "" else "//" ++ a) ++ u.path ++
    (match u.query with
      | some q => "?" ++ q
      | none => "") ++
    (match u.fragment with
      | some f => "#" ++ f
      | none => "")

/-- Whether a URL text names its type. -/
def namesType (s : String) : Bool :=
  let cs := s.toList
  let beforeTag := if cs.contains '#' then (cs.reverse.dropWhile (· ≠ '#')).reverse.dropLast else cs
  let head := beforeTag.takeWhile fun c => c != '/' && c != ':'
  !head.isEmpty && (beforeTag.drop head.length).head? == some ':'

/-- The user name of the user information, decoded. -/
def username (u : Url) : String := unquote (String.ofList (splitAtFirst ':' u.userinfo.toList).1)

/-- The password of the user information, decoded; empty when there is none. -/
def password (u : Url) : String :=
  unquote (String.ofList ((splitAtFirst ':' u.userinfo.toList).2.getD []))

/-- The pairs of a query, with `+` read as a space and escapes decoded. -/
def queryPairs (q : String) : List (String × String) :=
  let decode (cs : List Char) : String :=
    unquote (String.ofList (cs.map fun c => if c = '+' then ' ' else c))
  (q.splitOn "&").filterMap fun piece =>
    if piece.isEmpty then none
    else
      let (name, value) := splitAtFirst '=' piece.toList
      some (decode name, decode (value.getD []))

end Url

/-- The basic authorization header of a user and password given as bytes. -/
def basicAuthBytes (user password : List UInt8) : String :=
  "Basic " ++ String.ofList (Base64.encode (user ++ [58] ++ password))

/-- The basic authorization header of a user and password. -/
def basicAuth (user password : String) : String :=
  basicAuthBytes (Utf8.encode user) (Utf8.encode password)

/-- The basic authorization of a user and password, from their UTF-8 bytes. -/
def ownAuthorization (user password : Text) : Except Utf8.Unencodable String := do
  let u ← Utf8.encodeText user
  let p ← Utf8.encodeText password
  pure (basicAuthBytes u p)

/-- The authorization the user information of a URL gives. -/
def Url.userAuthorization (u : Url) : Option String :=
  if u.username.isEmpty && u.password.isEmpty then none
  else some (basicAuth u.username u.password)

end DocClient
