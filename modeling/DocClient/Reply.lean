import DocClient.Value.Items
/-!
What the server's replies mean: the failure of an HTTP error reply, a write's new marks, a
bulk entry's outcome, and a change record.
-/
namespace DocClient

/-- Whether a document id names a design document: a text starting with an underscore. -/
def isDesignId : Value → Bool
  | .str s => s.startsWith "_"
  | _ => false

/-- The failure for an HTTP error reply, by status, code and reason. -/
def errorForStatus (status body : Value) (operation docId : Value := .null) : ClientError :=
  let (code, reason) : Value × Value := match body with
    | .dict es => (Value.getD es "error", Value.getD es "reason")
    | _ => (.null, .null)
  let message := if reason.truthy then reason else if code.truthy then code
    else .str ("HTTP " ++ status.text)
  let kind : ClientErrorKind :=
    if status.eq (.int 404) then .notFound
    else if status.eq (.int 409) || code.eq (.str "conflict") then .conflict
    else .server
  { kind, message, code, status, docId, operation }

/-- The failure for one failed entry of a bulk reply. -/
def errorForOutcome (code reason : Value) (operation docId : Value := .null) : ClientError :=
  let kind : ClientErrorKind :=
    if code.eq (.str "conflict") then .conflict
    else if code.eq (.str "not_found") then .notFound
    else .server
  { kind, message := if reason.truthy then reason else code, code, docId, operation }

/-- The id and revision a write reply names. -/
structure Created where
  id : Value
  rev : Value

/-- Read a write reply: an object with a truthy `id` and `rev`. -/
def Created.ofReply (reply : Value) (operation : Value) : Except Error Created :=
  match reply with
  | .dict es =>
    let i := Value.getD es "id"
    let r := Value.getD es "rev"
    if i.truthy && r.truthy then .ok ⟨i, r⟩
    else .error (.client { kind := .decode, message := .str "Unexpected response format: missing id or rev",
                           operation, docId := i })
  | _ => .error (.client { kind := .decode, message := .str "Unexpected response format", operation })

/-- The result of writing one document in a bulk request. -/
structure WriteOutcome where
  id : Value
  rev : Value := .null
  error : Value := .null
  reason : Value := .null

namespace WriteOutcome

/-- Whether the write succeeded: it has no error. -/
def ok (o : WriteOutcome) : Bool := o.error matches .null

/-- Whether the write failed on a revision conflict. -/
def isConflict (o : WriteOutcome) : Bool := o.error.eq (.str "conflict")

/-- The failure of a failed write. -/
def failure (o : WriteOutcome) : Option ClientError :=
  if o.ok then none else some (errorForOutcome o.error o.reason (.str "bulk_docs") o.id)

/-- Read one entry of a bulk reply. -/
def ofEntry (entry : Value) : WriteOutcome :=
  match entry with
  | .dict es =>
    let g := Value.getD es
    if (g "error").truthy then { id := g "id", error := g "error", reason := g "reason" }
    else if !(g "id").truthy || !(g "rev").truthy then
      { id := g "id", error := .str "bad_response",
        reason := .str "Entry carries neither a revision nor an error" }
    else { id := g "id", rev := g "rev" }
  | _ => { id := .null, error := .str "bad_response", reason := .str ("Unexpected entry: " ++ entry.repr) }

end WriteOutcome

/-- One change of a change feed. -/
structure ChangeEvent where
  seq : Value
  id : Value
  rev : Value
  deleted : Bool
  doc : Value
  revs : List Value

/-- The revision of one entry of a change's `changes` list, when it is an object with one. -/
def changeRev : Value → Option Value
  | .dict es => Value.get? es "rev"
  | _ => none

/-- Read a change record; `seq` and `id` must be present. -/
def ChangeEvent.ofRecord (es : List (Value × Value)) : Except Error ChangeEvent := do
  let changes ← ((Value.get? es "changes").getD (.list [])).items
  let revs := changes.filterMap changeRev
  let seq ← match Value.get? es "seq" with
    | some v => pure v
    | none => throw (.key (.str "seq"))
  let id ← match Value.get? es "id" with
    | some v => pure v
    | none => throw (.key (.str "id"))
  pure { seq, id, rev := revs.head?.getD .null, deleted := (Value.getD es "deleted").truthy,
         doc := Value.getD es "doc", revs }

end DocClient
