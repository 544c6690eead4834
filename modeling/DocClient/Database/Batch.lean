import DocClient.Database.Basic
/-!
Writing many documents in one request. A document that cannot be encoded gets a
`bad_document` outcome and stays out; the others get the reply's entries in order, and a
success is written back wherever the document stands or is held.
-/
namespace DocClient

namespace Database

/-- Encode one document for a bulk request: its envelope, written as strict JSON. -/
def encodeForBatch (db : Database) (depth : Nat) (doc : Value) :
    Except Error (List (Value × Value)) := do
  let env ← db.adapter.toEnvelope doc
  match Value.get? env "_id" with
  | none | some .null => pure ()
  | some (.str _) | some (.updateMode _) => pure ()
  | some v => throw (.type s!"Document id must be a string, got {v.typeName}")
  match Json.write ⟨", ", ": ", true, false⟩ (Json.stackRoom - (depth + 2)) (.dict env) with
  | .ok _ => pure env
  | .error f => throw f.toError

/-- The reason of an encoding failure that sets a document aside, else the failure. -/
def badDocumentReason : Error → Option Text
  | .type m => some m
  | .value m => some m
  | .invalid v => some (Text.ofString v.text)
  | _ => none

/-- The id of a document for reporting: its adapter id when that is a text. -/
def reportedId (db : Database) (doc : Value) : Value := db.adapter.textId doc

end Database

/-- One step into a document's content: an object's entry, a sequence's item, a record field. -/
inductive Step where
  | entry (key : Text)
  | item (index : Nat)
  | field (name : String)

/-- Whether a step keeps off the marks and a record's machinery. -/
def Step.inContent : Step → Bool
  | .entry k => [Mark.id, .rev, .deleted].all fun m => k != Text.ofString m.key
  | .item _ => true
  | .field n => !(Text.ofString n).startsWith "_"

/-- The value with `x` standing at a path into it, where assignment would put it. -/
def Value.setAt : Value → List Step → Value → Value
  | _, [], x => x
  | .dict es, .entry k :: p, x =>
    .dict (es.map fun e => if Value.keyEq (.str k) e.1 then (e.1, Value.setAt e.2 p x) else e)
  | .list xs, .item i :: p, x => .list (xs.modify i fun v => Value.setAt v p x)
  | .tuple xs, .item i :: p, x => .tuple (xs.modify i fun v => Value.setAt v p x)
  | .record s fs i r d ss, .field n :: p, x =>
    .record s (fs.map fun e => if e.1 = n then (e.1, Value.setAt e.2 p x) else e) i r d ss
  | v, _ :: _, _ => v

/-- `holder` holds `held` in its content at the path `first :: rest`. -/
structure Hold where
  holder : Nat
  first : Step
  rest : List Step
  held : Nat
  inContent : first.inContent = true

/-- The documents of one bulk write, the places they stand at, and where one holds another. -/
structure Batch where
  documents : List Value
  places : List Nat
  holds : List Hold := []
  below : (holds.all fun h => h.held < h.holder) = true := by decide

namespace Batch

/-- Distinct documents, each at a place of its own, none holding another. -/
def ofList (docs : List Value) : Batch := { documents := docs, places := List.range docs.length }

/-- Document `k` as the caller sees it: its content with the documents it holds in place. -/
def seenAs (b : Batch) (seen : List Value) (k : Nat) : Value :=
  (b.holds.filter (·.holder == k)).foldl
    (fun v h => v.setAt (h.first :: h.rest) (seen.getD h.held .null)) (b.documents.getD k .null)

/-- The first `n` documents as the caller sees them. -/
def viewsUpTo (b : Batch) : Nat → List Value
  | 0 => []
  | n + 1 => b.viewsUpTo n ++ [b.seenAs (b.viewsUpTo n) n]

/-- Document `k` as the caller sees it. -/
def view (b : Batch) (k : Nat) : Value := (b.viewsUpTo b.documents.length).getD k .null

/-- The document standing at each place, in order, as the caller sees it. -/
def atPlaces (b : Batch) : List Value := b.places.map b.view

/-- Replace one document's own content. -/
def setDocument (b : Batch) (k : Nat) (d : Value) : Batch :=
  { b with documents := b.documents.set k d }


end Batch

namespace Database

/-- Submit a batch in one request: one outcome per place, and the batch written back. -/
def submit (db : Database) (b : Batch) (depth : Nat := 1) :
    ExceptT (Error × Batch) (StateM Session) (List WriteOutcome × Batch) := do
  -- encode each place, setting aside the documents that cannot be encoded
  let encoded ← b.places.mapM fun k =>
    let d := b.view k
    match db.encodeForBatch depth d with
    | .ok env => pure (Sum.inr (k, env))
    | .error e =>
      match badDocumentReason e with
      | some reason =>
        pure (Sum.inl ({ id := db.reportedId d, error := .str "bad_document", reason := .str reason } : WriteOutcome))
      | none => throw (e, b)
  let envs := encoded.filterMap fun | .inr (_, env) => some (Value.dict env) | .inl _ => none
  if envs.isEmpty then
    return (encoded.filterMap fun | .inl o => some o | .inr _ => none, b)
  let p ← lift b (Call.lift (db.path [.str "_bulk_docs"]))
  let body ← lift b (Call.lift (jsonBody (depth + 3) (Value.obj [("docs", .list envs)])))
  let reply ← lift b (requestOk (depth + 2) (.str "bulk_docs") .null "POST" p [] body)
  let entries ← match reply with
    | .list xs => pure xs
    | _ => throw (Error.service .decode "Expected a list of outcomes" (.str "bulk_docs"), b)
  if entries.length != envs.length then
    throw (Error.service .decode
      s!"Unexpected size of response: {entries.length} given size of request: {envs.length}"
      (.str "bulk_docs"), b)
  -- pair the entries with the places that were sent, in order
  let rec place : List (WriteOutcome ⊕ (Nat × List (Value × Value))) → List Value →
      List WriteOutcome → Batch → Except (Error × Batch) (List WriteOutcome × Batch)
    | [], _, outs, b => .ok (outs.reverse, b)
    | .inl o :: rest, es, outs, b => place rest es (o :: outs) b
    | .inr (k, _) :: rest, e :: es, outs, b =>
      let o := WriteOutcome.ofEntry e
      if o.ok then
        match db.writeBack (b.documents.getD k .null) ⟨o.id, o.rev⟩ with
        | .ok d' => place rest es (o :: outs) (b.setDocument k d')
        | .error err => .error (err, b)
      else place rest es (o :: outs) b
    | .inr _ :: _, [], outs, b => .ok (outs.reverse, b)
  match place encoded entries [] b with
  | .ok r => pure r
  | .error e => throw e
where
  lift {α : Type} (b : Batch) (c : Call α) : ExceptT (Error × Batch) (StateM Session) α :=
    ExceptT.mk do
      match ← c.run with
      | .ok a => pure (.ok a)
      | .error e => pure (.error (e, b))

/-- The rows of an all-documents reply, objects only. -/
def replyRows (operation : String) (body : Value) : Except Error (List (List (Value × Value))) :=
  match body with
  | .dict es =>
    match Value.get? es "rows" with
    | some (.list rows) => .ok (rows.filterMap fun | .dict r => some r | _ => none)
    | _ => .error (Error.service .decode "Expected an object with a rows list" (.str operation))
  | _ => .error (Error.service .decode "Expected an object with a rows list" (.str operation))

/-- The current revisions of documents by id, from an all-documents request. -/
def currentRevisions (db : Database) (ids : List Value) (depth : Nat) :
    Call (List (Value × Value)) := do
  if ids.isEmpty then return []
  let p ← Call.lift (db.path [.str "_all_docs"])
  let body ← Call.lift (jsonBody (depth + 2) (Value.obj [("keys", .list ids)]))
  let reply ← requestOk (depth + 1) (.str "bulk_upsert") .null "POST" p [] body
  let rows ← Call.lift (replyRows "bulk_upsert" reply)
  rows.foldlM (fun revs row => do
    let value := Value.getD row "value"
    match value with
    | .dict vs =>
      if (Value.getD row "error").truthy || (Value.getD vs "deleted").truthy then pure revs
      else
        let rev ← match Value.get? vs "rev" with
          | some v => pure v
          | none => throw (Error.key (.str "rev"))
        let rowId ← match Value.get? row "id" with
          | some v => pure v
          | none => throw (Error.key (.str "id"))
        Call.lift (Value.checkKey rowId)
        pure (Value.insert rowId rev revs)
    | _ => pure revs) []

/-- Submit a batch over the server's current revisions. -/
def bulkUpsert (db : Database) (b : Batch) :
    ExceptT (Error × Batch) (StateM Session) (List WriteOutcome × Batch) := do
  let ids ← b.atPlaces.mapM fun d =>
    match db.adapter.getId d with
    | .ok v => pure v
    | .error e => throw (e, b)
  let ids := ids.filter (·.truthy)
  let revs ← submit.lift b (db.currentRevisions ids 3)
  -- write each revision in turn, place by place; a failure keeps the revisions written before it
  let rec takeRevisions : List Nat → Batch → Except (Error × Batch) Batch
    | [], b => .ok b
    | k :: rest, b =>
      let d := b.documents.getD k .null
      match db.adapter.getId d with
      | .error e => .error (e, b)
      | .ok docId =>
        if docId.truthy then
          match Value.checkKey docId with
          | .error e => .error (e, b)
          | .ok () =>
            match Value.lookup docId revs with
            | some rev =>
              match db.adapter.setRev d rev with
              | .ok d' => takeRevisions rest (b.setDocument k d')
              | .error e => .error (e, b)
            | none => takeRevisions rest b
        else takeRevisions rest b
  let updated ← match takeRevisions b.places b with
    | .ok b => pure b
    | .error e => throw e
  db.submit updated 2

end Database

end DocClient
