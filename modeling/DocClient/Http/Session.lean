import DocClient.Changes.Feed
/-!
A client session against a scripted server: where it is, how to authenticate, the stem of
database names, the script of coming replies, the requests sent and the open feeds.
-/
namespace DocClient

/-- A session with a scripted server. -/
structure Session where
  base : Url
  authorization : Option String
  /-- The value put before every database name. -/
  stem : Value
  script : List Scripted
  sent : List Request := []
  feeds : List (String × ChangeFeed) := []
  /-- The caller's other named objects, by type name: a cancellation may name one. -/
  others : List (String × String) := []
  deriving DecidableEq

/-- An operation of a session. -/
abbrev Call := ExceptT Error (StateM Session)

namespace Session

/-- The basic authorization of a client's own user and password. -/
def ownCredentials (user password : Value) : Except Error (Option String) :=
  if !user.truthy then pure none
  else do
    let pw := if password.truthy then password else .str (Text.ofString "")
    let bytesOf (v : Value) : Except Error (Option (List UInt8)) := match v.asText? with
      | some t => (Utf8.encodeText t).map some |>.mapError .unencodable
      | none => pure none
    let u ← bytesOf user
    let p ← bytesOf pw
    let notBytes (i : Nat) (v : Value) : Error :=
      .type (Text.ofString ("sequence item " ++ toString i ++
        ": expected a bytes-like object, " ++ v.typeName ++ " found"))
    match u, p with
    | some u, some p => pure (some (basicAuthBytes u p))
    | none, _ => throw (notBytes 0 user)
    | _, none => throw (notBytes 1 pw)

/-- A session of a client with the given base URL, user, password and stem. -/
def connect (baseUrl user password stem : Value) (script : List Scripted) :
    Except Error Session := do
  let baseText ← match baseUrl.asText? with
    | some t => pure t
    | none => throw (.attribute baseUrl.typeName "rstrip")
  let own ← ownCredentials user password
  let base ← (Url.clientBase baseText).mapError fun
    | .unencodable u => .unencodable u
    | f => .invalidUrl f.message
  pure { base, authorization := own.orElse fun _ => base.userAuthorization, stem, script }

/-- The full name of a database: the session's stem joined to the name. -/
def databaseName (s : Session) (name : String) : Except Error String :=
  let refuse (m : String) : Except Error String := .error (.type (Text.ofString m))
  match s.stem with
  | .list _ => refuse "can only concatenate list (not \"str\") to list"
  | .tuple _ => refuse "can only concatenate tuple (not \"str\") to tuple"
  | v => match v.asText? with
    | some t => .ok (t.lossy ++ name)
    | none => refuse ("unsupported operand type(s) for +: '" ++ v.typeName ++ "' and 'str'")

/-- The failure of a reply to a URL that names no type. -/
def untyped (url : Url) : Error :=
  .value (Text.ofString ("unknown url type: " ++ (Value.str (Text.ofString url.text)).repr))

/-- The connection failure when the script is used up. -/
def noReply : HttpFault := ⟨.refused, "no scripted response"⟩

/-- The feed of a name. -/
def feed? (s : Session) (name : String) : Option ChangeFeed :=
  (s.feeds.find? (·.1 = name)).map (·.2)

/-- Store a feed under a name, which then names nothing else. -/
def setFeed (s : Session) (name : String) (f : ChangeFeed) : Session :=
  { s with feeds := (s.feeds.filter (·.1 != name)) ++ [(name, f)],
           others := s.others.filter (·.1 != name) }

/-- Give a name to an object of the caller that is not a feed. -/
def nameObject (s : Session) (name typeName : String) : Session :=
  { s with feeds := s.feeds.filter (·.1 != name),
           others := (s.others.filter (·.1 != name)) ++ [(name, typeName)] }

/-- Cancel the named feed while a read is under way. -/
def cancelNamed (s : Session) (name : String) (drain : Bool) : Except Error Session :=
  match s.feed? name with
  | some f => .ok (s.setFeed name (f.cancel drain))
  | none => match s.others.find? (·.1 = name) with
    | some (_, t) => .error (.attribute t "cancel")
    | none => .error (.key (.str (Text.ofString name)))

/-- Make cancellations in order, up to the first that fails. -/
def cancelEach : List (String × Bool) → StateM Session (Except Error Unit)
  | [] => pure (.ok ())
  | (n, d) :: rest => do
    match (← get).cancelNamed n d with
    | .ok s =>
      set s
      cancelEach rest
    | .error e => pure (.error e)

/-- Send a request: record it and take the server's next move. -/
def send (method path : String) (params : List (Value × Value)) (body : RequestBody) :
    StateM Session (Except Error Scripted) := do
  let s ← get
  let url := s.base.join path
  match requestQuery url.query params with
  | .error u => pure (.error (.unencodable u))
  | .ok (queryText, query) =>
    let req : Request :=
      { method, path := if url.path.isEmpty then "/" else url.path, query,
        authorization := s.authorization, body }
    match s.script with
    | [] =>
      set { s with sent := s.sent ++ [req] }
      pure (.ok (.fault noReply))
    | r :: rest =>
      set { s with sent := s.sent ++ [req], script := rest }
      let target := { url with query := queryText }
      match r with
      | .reply _ => pure (if Url.namesType target.text then .ok r else .error (untyped target))
      | .fault _ | .crash _ => pure (.ok r)

end Session

/-- Lift a plain result into a call. -/
def Call.lift {α : Type} (e : Except Error α) : Call α :=
  match e with
  | .ok a => pure a
  | .error err => throw err

/-- The failure a write failure raises. -/
def Json.WriteFailure.toError (f : Json.WriteFailure) : Error :=
  match f with
  | .tooDeep _ => .recursion f.message
  | .outOfRange => .value f.message
  | _ => .type f.message

/-- The wire text of a JSON request body, written `depth` calls below the step. -/
def jsonBody (depth : Nat) (v : Value) : Except Error RequestBody :=
  match Json.write Json.Style.wire (Json.stackRoom - (depth + 7)) v with
  | .ok t =>
    match Utf8.encodable t with
    | .ok s => .ok (.json s)
    | .error u => .error (.unencodable u)
  | .error f => .error f.toError

/-- A transport failure of an operation. -/
def transportError (message : String) (operation docId : Value) : Error :=
  .client { kind := .transport, message := .str message, operation, docId }

/-- Read a reply body whole, making the cancellations met on the way. -/
def readWhole : List Piece → Call (Except HttpFault (List UInt8))
  | [] => pure (.ok [])
  | .bytes bs :: rest => do
    match ← readWhole rest with
    | .ok more => pure (.ok (bs ++ more))
    | .error f => pure (.error f)
  | .fault f :: _ => pure (.error f)
  | .crash e :: _ => throw e
  | .cancel n d :: rest => do
    set (← Call.lift ((← get).cancelNamed n d))
    readWhole rest

/-- Send a request and read the reply whole: its status and body bytes. -/
def exchange (operation docId : Value) (method path : String)
    (params : List (Value × Value)) (body : RequestBody) : Call (Int × List UInt8) := do
  let sent : Except Error Scripted ← ExceptT.lift (Session.send method path params body)
  match sent with
  | .error e => throw e
  | .ok (.fault f) => throw (transportError ("Request failed: " ++ f.message) operation docId)
  | .ok (.crash e) => throw e
  | .ok (.reply r) =>
    match ← readWhole r.pieces with
    | .ok bs => pure (r.status, bs)
    | .error f => throw (transportError ("Request failed: " ++ f.message) operation docId)

/-- Decode a reply body: null when empty, else JSON. -/
def decodeBody (depth : Nat) (operation : Value) (status : Int) (bs : List UInt8) :
    Except Error Value :=
  if bs.isEmpty then .ok .null
  else
    match Json.readBytes (Json.stackRoom - depth) bs with
    | .ok v => .ok v
    | .error f@(.json _ (.longInteger _)) => .error (.value f.message)
    | .error f@(.json _ (.tooDeep _)) => .error (.recursion f.message)
    | .error f =>
      .error (.client { kind := .decode, message := .str ("Response is not valid JSON: " ++ f.message),
                        operation, status := .int status })

/-- Send a request and decode its reply, whatever the status. -/
def request (depth : Nat) (operation docId : Value) (method path : String)
    (params : List (Value × Value) := []) (body : RequestBody := .none) : Call (Int × Value) := do
  let (status, bs) ← exchange operation docId method path params body
  let v ← Call.lift (decodeBody (depth + 2) operation status bs)
  pure (status, v)

/-- Send a request and decode its reply; a status of 400 or more is a failure. -/
def requestOk (depth : Nat) (operation docId : Value) (method path : String)
    (params : List (Value × Value) := []) (body : RequestBody := .none) : Call Value := do
  let (status, v) ← request (depth + 1) operation docId method path params body
  if 400 ≤ status then throw (.client (errorForStatus (.int status) v operation docId))
  pure v

end DocClient
