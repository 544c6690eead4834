import DocClient.Http.Session
import DocClient.Query.Find
import DocClient.Query.View
/-!
Single-document operations on one database. A database is a name and the adapter of its
documents; saving writes the server's id and revision back into the document.
-/
namespace DocClient

/-- A database: its full name and how its documents map to envelopes. -/
structure Database where
  name : String
  adapter : Adapter

/-- The path of segments, encoded in order; only encodable texts are segments. -/
def encodePath (segs : List Value) : Except Error String := do
  let texts ← segs.mapM fun
    | .str s => (Utf8.encodable s).mapError .unencodable
    | .updateMode m => pure m.text
    | _ => throw (.type "quote_from_bytes() expected bytes")
  pure (Percent.joinSegments texts)

/-- The server's health report: it must be an object. -/
def health : Call Value := do
  let body ← requestOk 2 (.str "health") .null "GET" "_up"
  match body with
  | .dict _ => pure body
  | _ => throw (Error.service .decode "Unexpected health response" (.str "health"))

namespace Database

/-- The display text of a database: its quoted name and its document type. -/
def display (db : Database) : String :=
  "Database(" ++ (Value.str db.name).repr ++ ", " ++ db.adapter.typeName ++ ")"

/-- The path of segments under the database. -/
def path (db : Database) (segs : List Value) : Except Error String :=
  encodePath (.str db.name :: segs)

/-- Whether a document exists: 200 and 304 say yes, 404 no, any other status fails. -/
def exists_ (db : Database) (docId : Value) : Call Bool := do
  let p ← Call.lift (db.path [docId])
  let (status, _) ← exchange (.str "exists") docId "HEAD" p [] .none
  if status = 200 ∨ status = 304 then pure true
  else if status = 404 then pure false
  else throw (.client (errorForStatus (.int status) .null (.str "exists") docId))

/-- Read a document. -/
def get (db : Database) (docId : Value) : Call Value := do
  let p ← Call.lift (db.path [docId])
  let body ← requestOk 2 (.str "get") docId "GET" p
  Call.lift (db.adapter.fromEnvelope body)

/-- Write the id and revision of a write reply into a document. -/
def writeBack (db : Database) (doc : Value) (c : Created) : Except Error Value := do
  let d ← db.adapter.setId doc c.id
  db.adapter.setRev d c.rev

/-- Save a document with `PUT` under its id or `POST`, writing back the reply's marks. -/
def save (db : Database) (doc : Value) (depth : Nat := 1) : Call Value := do
  let env ← Call.lift (db.adapter.toEnvelope doc)
  let docId ← Call.lift (db.adapter.getId doc)
  let (method, p) ← if docId.truthy then do
      let p ← Call.lift (db.path [docId])
      pure ("PUT", p)
    else do
      let p ← Call.lift (db.path [])
      pure ("POST", p)
  let body ← Call.lift (jsonBody (depth + 2) (.dict env))
  let reply ← requestOk (depth + 1) (.str "save") docId method p [] body
  let c ← Call.lift (Created.ofReply reply (.str "save"))
  Call.lift (db.writeBack doc c)

/-- Create a document with `POST`, writing back the reply's marks. -/
def create (db : Database) (doc : Value) : Call (Created × Value) := do
  let env ← Call.lift (db.adapter.toEnvelope doc)
  let docId ← Call.lift (db.adapter.getId doc)
  let p ← Call.lift (db.path [])
  let body ← Call.lift (jsonBody 3 (.dict env))
  let reply ← requestOk 2 (.str "create") docId "POST" p [] body
  let c ← Call.lift (Created.ofReply reply (.str "create"))
  let d ← Call.lift (db.writeBack doc c)
  pure (c, d)

/-- Save over the server's revision, keeping the document as each stage leaves it. -/
def upsert (db : Database) (doc : Value) : ExceptT (Error × Value) (StateM Session) Value := do
  let docId ← liftDoc doc (Call.lift (db.adapter.getId doc))
  let doc ← if docId.truthy then do
      let p ← liftDoc doc (Call.lift (db.path [docId]))
      let current ← liftDoc doc (tryCatch (requestOk 2 (.str "upsert") docId "GET" p) fun e =>
        match e with
        | .client c => if c.kind = .notFound then pure .null else throw e
        | _ => throw e)
      match current with
      | .dict es =>
        let rev := Value.getD es "_rev"
        if rev.truthy then liftDoc doc (Call.lift (db.adapter.setRev doc rev)) else pure doc
      | _ => pure doc
    else pure doc
  liftDoc doc (db.save doc 2)
where
  liftDoc {α : Type} (d : Value) (c : Call α) : ExceptT (Error × Value) (StateM Session) α :=
    ExceptT.mk do
      match ← c.run with
      | .ok a => pure (.ok a)
      | .error e => pure (.error (e, d))

/-- Remove a document at a revision. -/
def remove (db : Database) (docId rev : Value) : Call Created := do
  let p ← Call.lift (db.path [docId])
  let reply ← requestOk 2 (.str "remove") docId "DELETE" p [(.str "rev", rev)]
  Call.lift (Created.ofReply reply (.str "remove"))

/-- Call an update handler on a document; the reply comes back as text. -/
def executeUpdate (db : Database) (design update docId body : Value) : Call String := do
  let p ← Call.lift (db.path [.str "_design", design, .str "_update", update, docId])
  let content ← match body with
    | .null => pure ""
    | v => match Json.writeAscii Json.Style.spaced (Json.stackRoom - 1) v with
      | .ok t => pure t
      | .error f => throw f.toError
  let (status, bs) ← exchange (.str "execute_update") docId "PUT" p [] (.text content)
  if 400 ≤ status then
    let v ← match decodeBody 4 (.str "execute_update") status bs with
      | .ok v => pure v
      | .error (.client _) => pure .null
      | .error e => throw e
    throw (.client (errorForStatus (.int status) v (.str "execute_update") docId))
  pure (String.ofList (Utf8.decodeReplacing bs))

end Database

end DocClient
