import DocClient.Database.Batch
/-!
Reading many documents by id, through the all-documents view, or through a design
document's views, one query or several in one request.
-/
namespace DocClient

/-- A page of documents with the totals the server reported. -/
structure ResultPage where
  rows : List Value := []
  totalRows : Value := .null
  offset : Value := .null
  bookmark : Value := .null
  warning : Value := .null
  deriving DecidableEq

/-- One row of a view. -/
structure ViewRow where
  key : Value
  value : Value
  id : Value
  doc : Value

/-- The rows of a view with the totals the server reported. -/
structure ViewResult where
  rows : List ViewRow
  totalRows : Value
  offset : Value
  updateSeq : Value

namespace Database

/-- Decode an all-documents reply into a page. -/
def allDocsPage (db : Database) (operation : String) (body : Value) : Except Error ResultPage := do
  let es ← match body with
    | .dict es =>
      match Value.get? es "rows" with
      | some (.list _) => pure es
      | _ => throw (Error.service .decode "Expected an object with a rows list" (.str operation))
    | _ => throw (Error.service .decode "Expected an object with a rows list" (.str operation))
  let rows := match Value.getD es "rows" with
    | .list rows => rows
    | _ => []
  let docs ← rows.filterMapM fun row =>
    match row with
    | .dict r =>
      if (Value.getD r "error").truthy then pure none
      else
        match Value.getD r "doc" with
        | .null => pure none
        | doc =>
          if isDesignId (Value.getD r "id") then pure none
          else do
            let d ← db.adapter.fromEnvelope doc
            pure (some d)
    | _ => pure none
  pure { rows := docs, totalRows := Value.getD es "total_rows", offset := Value.getD es "offset" }

/-- Read an all-documents request with the given options. -/
def allDocs (db : Database) (operation : String) (options : ViewRequest) : Call ResultPage := do
  let body ← Call.lift (options.toBody)
  let p ← Call.lift (db.path [.str "_all_docs"])
  let b ← Call.lift (jsonBody 3 (.dict body))
  let reply ← requestOk 2 (.str operation) .null "POST" p [] b
  Call.lift (db.allDocsPage operation reply)

/-- Read documents by id, with documents included and the given ids as keys. -/
def getBulk (db : Database) (ids : Value) (params : ViewRequest) : Call ResultPage := do
  let keys ← Call.lift ids.items
  let options ← Call.lift (params.set "include_docs" (.bool true))
  let options ← Call.lift (options.set "keys" (.list keys))
  db.allDocs "get_bulk" options

/-- Read every document, with documents included. -/
def getAll (db : Database) (params : ViewRequest) : Call ResultPage := do
  let options ← Call.lift (params.set "include_docs" (.bool true))
  db.allDocs "get_all" options

/-- Decode a view reply. -/
def viewResult (db : Database) (operation : String) (body : Value) : Except Error ViewResult := do
  let (es, rows) ← match body with
    | .dict es =>
      match Value.get? es "rows" with
      | some (.list rows) => pure (es, rows)
      | _ => throw (Error.service .decode "Expected an object with a rows list" (.str operation))
    | _ => throw (Error.service .decode "Expected an object with a rows list" (.str operation))
  let rows ← rows.mapM fun row =>
    match row with
    | .dict r => do
      let doc ← match Value.getD r "doc" with
        | .null => pure .null
        | d => db.adapter.fromEnvelope d
      pure { key := Value.getD r "key", value := Value.getD r "value", id := Value.getD r "id", doc }
    | other => throw (Error.service .decode ("Unexpected view row: " ++ other.repr) (.str operation))
  pure { rows, totalRows := Value.getD es "total_rows", offset := Value.getD es "offset",
         updateSeq := Value.getD es "update_seq" }

/-- Query a view of a design document. -/
def query (db : Database) (design view : Value) (params : ViewRequest) : Call ViewResult := do
  let p ← Call.lift (db.path [.str "_design", design, .str "_view", view])
  let body ← Call.lift params.toBody
  let b ← Call.lift (jsonBody 3 (.dict body))
  let reply ← requestOk 2 (.str "query") .null "POST" p [] b
  Call.lift (db.viewResult "query" reply)

/-- Run several queries of one view in one request. -/
def queryMany (db : Database) (design view : Value) (queries : List ViewRequest) :
    Call (List ViewResult) := do
  let p ← Call.lift (db.path [.str "_design", design, .str "_view", view, .str "queries"])
  let bodies ← Call.lift (queries.mapM fun q => do
    let b ← q.toBody
    pure (Value.dict b))
  let b ← Call.lift (jsonBody 3 (Value.obj [("queries", .list bodies)]))
  let reply ← requestOk 2 (.str "query_many") .null "POST" p [] b
  let results ← match reply with
    | .dict es =>
      match Value.get? es "results" with
      | some (.list rs) => pure rs
      | _ => throw (Error.service .decode "Expected an object with a results list" (.str "query_many"))
    | _ => throw (Error.service .decode "Expected an object with a results list" (.str "query_many"))
  Call.lift (results.mapM (db.viewResult "query_many"))

end Database

end DocClient
