import DocClient.Database.Views
/-!
Find queries, one page at a time or as a traversal across bookmarked pages. A traversal
stops after a short page, a page without a bookmark, or a repeated bookmark.
-/
namespace DocClient

namespace Database

/-- Send one find request: the page of envelopes and the number of documents sent. -/
def findEnvelopes (db : Database) (q : FindRequest) (depth : Nat) : Call (ResultPage × Nat) := do
  let p ← Call.lift (db.path [.str "_find"])
  let body ← Call.lift q.toBody
  let b ← Call.lift (jsonBody (depth + 1) (.dict body))
  let (status, reply) ← request (depth + 1) (.str "find") .null "POST" p [] b
  if 400 ≤ status then throw (.client (errorForStatus (.int status) reply (.str "find")))
  let es ← match reply with
    | .dict es => pure es
    | _ => throw (Error.service .decode "Expected a JSON object" (.str "find") .null (.int status))
  let err := Value.getD es "error"
  if err.truthy then
    let reason := Value.getD es "reason"
    throw (.client { kind := .server, message := if reason.truthy then reason else err, code := err,
                     status := .int status, operation := .str "find" })
  match Value.getD es "docs" with
  | .null => pure ({}, 0)
  | .list docs =>
    let warning := Value.getD es "warning"
    let mark := Value.getD es "bookmark"
    let bookmark := if !mark.truthy || mark.eq (.str "nil") then .null else mark
    let rows := docs.filter fun d => match d with
      | .dict r => !isDesignId (Value.getD r "_id")
      | _ => true
    pure ({ rows, bookmark, warning }, docs.length)
  | _ => throw (Error.service .decode "Expected docs to be a list" (.str "find") .null (.int status))

/-- Run one find request and decode its documents. -/
def find (db : Database) (q : FindRequest) : Call ResultPage := do
  let (page, _) ← db.findEnvelopes q 2
  let rows ← Call.lift (page.rows.mapM db.adapter.fromEnvelope)
  pure { rows, bookmark := page.bookmark, warning := page.warning }

end Database

/-- A traversal of every document a find request matches. -/
structure FindCursor where
  db : Database
  query : FindRequest
  pageSize : Value
  maxResults : Value
  rows : List Value := []
  done : Bool := false
  bookmark : Value
  pages : Nat := 0
  yielded : Nat := 0

namespace FindCursor

/-- Compare two bounds as numbers: whether `a ≤ b`. -/
def atMost (a b : Value) : Except Error Bool :=
  match a, b with
  | .float x, _ => match b.asInt? with
    | some j => .ok (x.isFinite && Binary64.compareInt j x != .lt ||
        (x.isInfinite && x.negative))
    | none => .error (.type s!"'<=' not supported between instances of 'float' and '{b.typeName}'")
  | _, _ =>
    match a.asInt?, b.asInt? with
    | some i, some j => .ok (i ≤ j)
    | _, _ => .error (.type s!"'<=' not supported between instances of '{a.typeName}' and '{b.typeName}'")

/-- Start a traversal with a positive page size and a cap that is not negative. -/
def create (db : Database) (q : FindRequest) (pageSize maxResults : Value) : Except Error FindCursor := do
  let size := if pageSize.truthy then pageSize else if q.limit.truthy then q.limit else .int 1000
  if ← atMost size (.int 0) then throw (.value "page_size must be positive")
  match maxResults with
  | .null => pure ()
  | m => if ← m.isNegative then throw (.value "max_results must not be negative")
  let q' ← q.withLimit size
  pure { db, query := q', pageSize := size, maxResults, bookmark := q.bookmark }

/-- Whether a count has reached a cap. -/
def reached (yielded : Nat) (cap : Value) : Except Error Bool :=
  match cap with
  | .null => .ok false
  | c => atMost c (.int yielded)

/-- Fetch the next page, queue its rows, and decide whether the traversal is done. -/
def nextPage (c : FindCursor) (depth : Nat) : Call FindCursor := do
  let (page, fetched) ← c.db.findEnvelopes c.query (depth + 1)
  let c := { c with pages := c.pages + 1, rows := c.rows ++ page.rows }
  let previous := c.bookmark
  let c := if page.bookmark matches .null then c else { c with bookmark := page.bookmark }
  let short ← Call.lift (atMost c.pageSize (.int fetched) |>.map (!·))
  if short || (page.bookmark matches .null) || page.bookmark.eq previous then
    pure { c with done := true }
  else
    let q ← Call.lift (c.query.withBookmark page.bookmark |>.withSkip .null)
    pure { c with query := q }

/-- The next document, or none at the end; a failure to decode ends the traversal. -/
def next (c : FindCursor) (depth : Nat := 1) :
    StateM Session (Except Error (Option Value) × FindCursor) := do
  match reached c.yielded c.maxResults with
  | .error e => pure (.error e, c)
  | .ok true => pure (.ok none, { c with done := true, rows := [] })
  | .ok false =>
    let rec fill : Nat → FindCursor → StateM Session (Except Error FindCursor × FindCursor)
      | 0, c => pure (.ok c, c)
      | fuel + 1, c =>
        if !c.rows.isEmpty || c.done then pure (.ok c, c)
        else do
          match ← (c.nextPage (depth + 1)).run with
          | .ok c' => fill fuel c'
          | .error e => pure (.error e, c)
    let s ← get
    match ← fill (s.script.length + 1) c with
    | (.error e, c) => pure (.error e, c)
    | (.ok c, _) =>
      match c.rows with
      | [] => pure (.ok none, c)
      | env :: rest =>
        match c.db.adapter.fromEnvelope env with
        | .ok doc => pure (.ok (some doc), { c with rows := rest, yielded := c.yielded + 1 })
        | .error e =>
          match e with
          | .client ce =>
            if ce.kind = .decode then pure (.error e, { c with rows := [], done := true })
            else pure (.error e, { c with rows := rest })
          | _ => pure (.error e, { c with rows := rest })

/-- The documents a traversal has left, within `fuel`; the first failure stops it. -/
def toList (c : FindCursor) : Nat → StateM Session (Except Error (List Value) × FindCursor)
  | 0 => pure (.ok [], c)
  | fuel + 1 => do
    match ← c.next 3 with
    | (.ok (some d), c') =>
      let (rest, c'') ← c'.toList fuel
      pure (rest.map (d :: ·), c'')
    | (.ok none, c') => pure (.ok [], c')
    | (.error e, c') => pure (.error e, c')

end FindCursor

end DocClient
