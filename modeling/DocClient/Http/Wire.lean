import DocClient.Json.Write
import DocClient.Http.Url
import DocClient.Error
/-!
What travels between client and server: requests as received, replies as a script, and the
pieces of a body (bytes, a connection failure, a crash, or a feed's cancellation).
-/
namespace DocClient

/-- A failure of the connection, by what went wrong. -/
inductive HttpFaultKind where
  /-- The connection could not be made. -/
  | refused
  /-- Connecting, reading, writing or waiting for a connection took longer than allowed. -/
  | timedOut
  /-- The connection broke, or one side broke the protocol. -/
  | broken
  deriving DecidableEq, Repr

/-- A connection failure with its message. -/
structure HttpFault where
  kind : HttpFaultKind
  message : String
  deriving DecidableEq

/-- A timeout, which a continuous feed treats as a reason to reconnect. -/
def HttpFault.isTimeout (f : HttpFault) : Bool := f.kind == .timedOut

/-- The body of a request as sent. -/
inductive RequestBody where
  | none
  /-- A JSON body, as its wire text. -/
  | json (text : String)
  /-- Any other body, as its text. -/
  | text (text : String)
  deriving DecidableEq

/-- A request as the server receives it. -/
structure Request where
  method : String
  path : String
  query : List (String × String)
  authorization : Option String
  body : RequestBody
  deriving DecidableEq

/-- A piece of a reply body. -/
inductive Piece where
  | bytes (bs : List UInt8)
  | fault (f : HttpFault)
  /-- The transport fails with an error that is no connection failure. -/
  | crash (e : Error)
  /-- Cancel the named change feed while the read is under way. -/
  | cancel (feed : String) (drain : Bool)
  deriving DecidableEq

/-- A reply: its status and body. -/
structure Reply where
  status : Int
  pieces : List Piece
  deriving DecidableEq

/-- What the server does with the next request: reply, fail the connection, or crash. -/
inductive Scripted where
  | reply (r : Reply)
  | fault (f : HttpFault)
  | crash (e : Error)
  deriving DecidableEq

/-- The text of a query value. -/
def queryText : Value → Text
  | .bool true => "true"
  | .bool false => "false"
  | .null => ""
  | v => v.text

/-- Store the values of a query key, a new key last. -/
def putQueryKey (k : Text) (vs : List Text) :
    List (Text × List Text) → List (Text × List Text)
  | [] => [(k, vs)]
  | (k', vs') :: rest => if k = k' then (k', vs) :: rest else (k', vs') :: putQueryKey k vs rest

/-- The keys of parameters with their values, keys compared by their plain text. -/
def queryGroups (params : List (Value × Value)) : List (Text × List Text) :=
  params.foldl (fun acc p =>
    let vs := match p.2 with
      | .list xs | .tuple xs => xs.map queryText
      | v => [queryText v]
    putQueryKey p.1.text vs acc) []

/-- The pairs of grouped keys, each key repeated for each of its values. -/
def ungroup (groups : List (Text × List Text)) : List (Text × Text) :=
  groups.flatMap fun g => g.2.map fun v => (g.1, v)

/-- Percent-encode the pairs of a query in order. -/
def encodePairs : List (Text × Text) → Except Utf8.Unencodable (List (String × String))
  | [] => .ok []
  | (k, v) :: rest => do
    let k ← Utf8.encodable k
    let v ← Utf8.encodable v
    let rest ← encodePairs rest
    pure ((k, v) :: rest)

/-- The pairs of a URL's own query, grouped by key in the order the keys first appear. -/
def groupPairs (pairs : List (String × String)) : List (String × String) :=
  let keys := pairs.foldl (fun ks p => if ks.contains p.1 then ks else ks ++ [p.1]) []
  keys.flatMap fun k => pairs.filter (·.1 == k)

/-- A text as a form carries it. -/
def formEscape (s : String) : String :=
  String.ofList (s.toList.flatMap fun c =>
    if Url.isUnreserved c then [c] else if c = ' ' then ['+'] else Url.escapeChar c)

/-- The query text of pairs, each key and value form-escaped. -/
def formEncode (pairs : List (String × String)) : String :=
  "&".intercalate (pairs.map fun (k, v) => formEscape k ++ "=" ++ formEscape v)

/-- The query of a request: its text and the pairs the server reads from it. -/
def requestQuery (urlQuery : Option String) (params : List (Value × Value)) :
    Except Utf8.Unencodable (Option String × List (String × String)) :=
  if params.isEmpty then .ok (urlQuery, groupPairs ((urlQuery.map Url.queryPairs).getD []))
  else do
    let pairs ← encodePairs (ungroup (queryGroups params))
    pure (if pairs.isEmpty then none else some (formEncode pairs), pairs)

/-- One read of a streamed body. -/
inductive ReadResult where
  | data (bs : List UInt8)
  | fault (f : HttpFault)
  | crash (e : Error)
  | finished

/-- One read: the feeds cancelled during it, what it delivers, and the pieces left. -/
def readOnce : List Piece → List (String × Bool) × ReadResult × List Piece
  | [] => ([], .finished, [])
  | .bytes [] :: rest => readOnce rest
  | .bytes bs :: rest => ([], .data bs, rest)
  | .fault f :: rest => ([], .fault f, rest)
  | .crash e :: rest => ([], .crash e, rest)
  | .cancel n d :: rest =>
    let r := readOnce rest
    ((n, d) :: r.1, r.2.1, r.2.2)

end DocClient
